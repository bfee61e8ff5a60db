import Keystroke.Text.Fold
import Keystroke.Text.Blank
import Keystroke.Text.Quoted
import Keystroke.Text.EditDistance
import Keystroke.Text.Width
import Keystroke.Text.Letter
import Keystroke.Text.Lower
import Keystroke.Command.Spelling
import Keystroke.Number.Display
import Keystroke.Constant.Evaluate
import Keystroke.Listing.Convert
import Keystroke.Message
import Keystroke.Dump.Table
import Keystroke.Settings
import Keystroke.Files.Directory
import Keystroke.CommandLine.Watch
import Keystroke.Main
import Keystroke.Proofs.Folding
import Keystroke.Proofs.Lookup
import Keystroke.Proofs.Reading
import Keystroke.Proofs.Keypad
import Keystroke.Proofs.Unambiguous
import Keystroke.Proofs.Consumption
import Keystroke.Proofs.Words
import Keystroke.Proofs.Locality
import Keystroke.Proofs.Layout
import Keystroke.Proofs.Execution
import Keystroke.Proofs.Entries
import Keystroke.Proofs.Markup
import Keystroke.Proofs.Numbering
import Keystroke.Proofs.WellFormed
import Keystroke.Proofs.Checked
import Keystroke.Proofs.Faults
import Keystroke.Proofs.Instructions
import Keystroke.Proofs.Identification
import Keystroke.Proofs.LineBreaks
import Keystroke.Proofs.Observation
import Keystroke.Proofs.NumeralFolding
import Keystroke.Proofs.FoldInvariance
import Keystroke.Proofs.NumeralGrammar
import Keystroke.Proofs.KeyEntry
import Keystroke.Proofs.NumberText
import Keystroke.Proofs.Literals
import Keystroke.Proofs.CborReading
import Keystroke.Proofs.DumpReading
import Keystroke.Proofs.JsonGrammar
import Keystroke.Proofs.JsonReading
import Keystroke.Proofs.Arguments
import Keystroke.Proofs.Usage
import Keystroke.Proofs.Preferences
import Keystroke.Proofs.Effects
import Keystroke.Proofs.Completion
import Keystroke.Proofs.Diagnosis
import Keystroke.Proofs.Separators
import Keystroke.Proofs.Shortcuts
import Keystroke.Proofs.Ranking
import Keystroke.Proofs.Walking
import Keystroke.Proofs.Arithmetic
import Keystroke.Proofs.DocumentKeys
import Keystroke.Proofs.Decoding
import Keystroke.Proofs.Declarations
import Keystroke.Proofs.Refolding
