import LinkRelay.Main
import LinkRelay.Proofs.Step
import LinkRelay.Proofs.Answer
import LinkRelay.Proofs.Text.Utf8
import LinkRelay.Proofs.ControlFlag.CommandLine
import LinkRelay.Proofs.BuildScript.Location
import LinkRelay.Proofs.Library.KeepLast
import LinkRelay.Proofs.BuildScript.Directive
import LinkRelay.Proofs.BuildScript.Merge
import LinkRelay.Proofs.BuildScript.Written
import LinkRelay.Proofs.BuildScript.CommandLine
import LinkRelay.Proofs.ArgumentFile
import LinkRelay.Proofs.Link.Plan
import LinkRelay.Proofs.ResponseFile
import LinkRelay.Proofs.Invocation
import LinkRelay.Proofs.Invocation.Handing
import LinkRelay.Proofs.Invocation.Leftovers
import LinkRelay.Proofs.Invocation.Verdict
import LinkRelay.Proofs.Link.Arguments
import LinkRelay.Proofs.Link.ArgumentFile
import LinkRelay.Proofs.Program
import LinkRelay.Proofs.Link.Isolation
import LinkRelay.Proofs.Link.Influence
import LinkRelay.Proofs.Link.Failure
import LinkRelay.Proofs.Link.Records
import LinkRelay.Proofs.ResponseFile.Sharing
import LinkRelay.Proofs.Log.Configuration
import LinkRelay.Proofs.Program.Logs
import LinkRelay.Proofs.Words.Plain
import LinkRelay.Proofs.Words.Quoted
import LinkRelay.Proofs.ArgumentFile.Reading
import LinkRelay.Proofs.ArgumentFile.Expansion
import LinkRelay.Proofs.ControlFlag.Composition
import LinkRelay.Proofs.Library.Places
import LinkRelay.Proofs.Library.Composition
import LinkRelay.Proofs.ControlFlag.Spelling
import LinkRelay.Proofs.BuildScript.Composition
import LinkRelay.Proofs.BuildScript.Warnings
import LinkRelay.Proofs.Disk.Entry
import LinkRelay.Proofs.BuildScript.Companion
import LinkRelay.Proofs.Linker.Choice
import LinkRelay.Proofs.Disk.Route
import LinkRelay.Proofs.Invocation.Directory
import LinkRelay.Proofs.TargetDirectory.Shape
import LinkRelay.Proofs.Log.Naming
import LinkRelay.Proofs.Log.Filter
import LinkRelay.Proofs.Shell
