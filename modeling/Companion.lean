import Companion.Code.Unit
import Companion.Collection.Round
import Companion.CommandLine.Run
import Companion.Json.Reader
import Companion.Json.Writer
import Companion.Linking
import Companion.Main
import Companion.Output.FileTree
import Companion.Processing
import Companion.Proofs.Code.BoundObject
import Companion.Proofs.Code.Imports
import Companion.Proofs.Code.Literals
import Companion.Proofs.Code.Lookups
import Companion.Proofs.Code.PlainNumbers
import Companion.Proofs.Code.Release
import Companion.Proofs.Code.Scope
import Companion.Proofs.Code.Spellings
import Companion.Proofs.CodeType.Spelling
import Companion.Proofs.Collection.Casts
import Companion.Proofs.Collection.FirstFit
import Companion.Proofs.Collection.Justification
import Companion.Proofs.Collection.Reported
import Companion.Proofs.Collection.Settlement
import Companion.Proofs.IntLiteral
import Companion.Proofs.Json.Decode
import Companion.Proofs.Linking.Separation
import Companion.Proofs.Processing.Callbacks
import Companion.Proofs.Processing.Files
import Companion.Proofs.Processing.Isolation
import Companion.Proofs.Processing.Places
import Companion.Proofs.Processing.SuperCall
import Companion.Proofs.Processing.Teardown
import Companion.Proofs.Processing.Unbinding
import Companion.Proofs.Processing.ViewNeed
import Companion.Proofs.Round.Environment
import Companion.Proofs.Round.Json
import Companion.Proofs.Symbols.Forms
import Companion.Proofs.Universe.Subtypes
import Companion.Round.Json
