import Keypad.Main
import Keypad.Pattern.Language
import Keypad.Proofs.Agreement
import Keypad.Proofs.Trace
import Keypad.Pattern.Attempt
import Keypad.Proofs.Attempts
import Keypad.Proofs.Fidelity
import Keypad.Proofs.Collection
import Keypad.Proofs.Completion
import Keypad.Proofs.Loosening
import Keypad.Proofs.Stages
import Keypad.Proofs.Backtracking
import Keypad.Proofs.Interpretation
import Keypad.Proofs.EntryPoints
import Keypad.Proofs.Discipline
import Keypad.Proofs.Exploration
import Keypad.Proofs.Participation
import Keypad.Proofs.Alphabet
import Keypad.Proofs.Speech
import Keypad.Proofs.Rendering
import Keypad.Proofs.Transcript
import Keypad.Proofs.Enclosed
