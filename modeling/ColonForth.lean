import ColonForth.Text.LowerCase
import ColonForth.Text.Blank
import ColonForth.Text.Quoted
import ColonForth.Text.Lines
import ColonForth.Text.Digit
import ColonForth.Number.Literal
import ColonForth.Word.Primitive
import ColonForth.Dictionary
import ColonForth.Eval
import ColonForth.Log.Logger
import ColonForth.Host.Folder
import ColonForth.Host.Program
import ColonForth.Main
import ColonForth.Proofs.Tokens
import ColonForth.Proofs.LiteralValue
import ColonForth.Proofs.Simulation
import ColonForth.Proofs.Worklist
import ColonForth.Proofs.Replay
import ColonForth.Proofs.DefinedWord
import ColonForth.Proofs.StoredBody
import ColonForth.Proofs.Redefinition
import ColonForth.Proofs.Concatenation
import ColonForth.Proofs.Unmentioned
import ColonForth.Proofs.FlatSession
import ColonForth.Proofs.PrintedStack
import ColonForth.Proofs.Expression
import ColonForth.Proofs.EndlessExpansion
import ColonForth.Proofs.StackLocality
import ColonForth.Proofs.Interruption
import ColonForth.Proofs.Lines
import ColonForth.Proofs.Turns
import ColonForth.Proofs.BatchRun
import ColonForth.Proofs.HostsAgree
import ColonForth.Proofs.Chain
import ColonForth.Proofs.ChainSequence
import ColonForth.Proofs.GuardedMachine
import ColonForth.Proofs.Failures
import ColonForth.Proofs.CanonicalProgram
import ColonForth.Proofs.EvaluationLog
import ColonForth.Proofs.LogLines
import ColonForth.Proofs.BuiltInWords
