import LinkRelay.Shell.Utility

namespace LinkRelay.Shell

/-- The descriptor that the name of a device stands for. -/
def device? (name : String) : Option Nat :=
  match name with
  | "/dev/stdin" => some 0
  | "/dev/stdout" => some 1
  | "/dev/stderr" => some 2
  | _ => (Text.after? "/dev/fd/" name).bind fun n => natural? n.toList

/-- Connects a descriptor, or says why it cannot be. -/
def State.redirect (s : State) (r : Redirection Chars) : Except Chars State :=
  let name := toText r.target
  let join (s : State) (channel : Channel) : Except Chars State :=
    .ok (s.connect r.descriptor (some channel))
  let supply (text : Chars) : Except Chars State :=
    let (s, number) := s.addPipe text
    join s (.pipe number)
  let write (s : State) (loc : Location) (keeps : Bool) (bytes : List UInt8) (executable : Bool) :
      Except Chars State :=
    let s := { s with disk := s.disk.put loc (.file (if keeps then bytes else []) executable) }
    let (s, number) := s.addFile loc (if r.direction = .append then none else some 0)
    join s (.file number)
  let cannot (verb missing : String) (why : Refusal) : Except Chars State :=
    let reason := if why = .missing || why = .notDirectory then missing else whyRefused why
    .error (s!"cannot {verb} ".toList ++ r.target ++ s!": {reason}".toList)
  let refuse := cannot "create" "Directory nonexistent"
  let create (keeps : Bool) : Except Chars State :=
    match s.disk.walk name with
    | .error why => refuse why
    | .ok loc =>
      match s.disk.node? loc with
      | some .sink => join s .sink
      | some .directory => refuse .isDirectory
      | some (.file bytes executable) => write s loc keeps bytes executable
      | none => write s loc false [] false
  let isFile := (s.disk.stat name).toOption matches some (.file _ _)
  match r.direction, device? name with
  | .document _, _ => supply r.target
  | .duplicate, _ =>
    match natural? r.target with
    | none => .ok (s.connect r.descriptor none)
    | some other =>
      match s.channel? other with
      | some channel => join s channel
      | none => .error (r.target ++ ": Bad file descriptor".toList)
  | _, some other =>
    match s.channel? other with
    | some channel => join s channel
    | none => refuse .missing
  | .input, none =>
    match s.disk.read name with
    | .ok bytes => supply (ofBytes bytes)
    | .error .isDirectory => join s .sink
    | .error why => cannot "open" "No such file" why
  | .both, none =>
    match s.disk.read name with
    | .ok bytes => if r.descriptor = 0 then supply (ofBytes bytes) else create true
    | .error _ => create true
  | .append, none => create true
  | .clobber, none => create false
  | .truncate, none =>
    if s.has .noclobber && isFile then
      .error ("cannot create ".toList ++ r.target ++ ": File exists".toList)
    else create false

/-- Connects descriptors from left to right. A failure leaves what was connected before it. -/
def State.redirectAll : List (Redirection Chars) → State → Except State State
  | [], s => .ok s
  | r :: rest, s =>
    match s.redirect r with
    | .ok s => State.redirectAll rest s
    | .error why => .error (s.complain why 2)

/-- Connects the descriptors again as they were before some redirections. -/
def State.disconnect (s before : State) (redirections : List (Redirection Chars)) : State :=
  if redirections.isEmpty then s
  else
    let s := redirections.foldl (fun s r => s.connect r.descriptor (before.channel? r.descriptor)) s
    s.dropUnused before

end LinkRelay.Shell
