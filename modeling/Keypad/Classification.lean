/-!
The four answers about a buffer: it matches and a key could extend the match, it matches and no key
can, it is the start of a match, or nothing that begins like it matches.
-/
namespace Keypad

inductive Classification
  | noMatch
  | potentialMatch
  | isMatch
  | maxMatch
  deriving DecidableEq, Repr, Inhabited

namespace Classification

def all : List Classification := [.noMatch, .potentialMatch, .isMatch, .maxMatch]

def name : Classification → String
  | .noMatch => "no_match"
  | .potentialMatch => "potential_match"
  | .isMatch => "match"
  | .maxMatch => "max_match"

def title : Classification → String
  | .noMatch => "NoMatch"
  | .potentialMatch => "PotentialMatch"
  | .isMatch => "Match"
  | .maxMatch => "MaxMatch"

def full : Classification → Bool
  | .isMatch | .maxMatch => true
  | .noMatch | .potentialMatch => false

/-- Collecting further keys cannot help. -/
def terminal : Classification → Bool
  | .noMatch | .maxMatch => true
  | .potentialMatch | .isMatch => false

def ofName? (text : String) : Option Classification := all.find? (·.name == text)

@[simp] theorem ofName?_name (c : Classification) : ofName? c.name = some c := by cases c <;> decide

end Classification

end Keypad
