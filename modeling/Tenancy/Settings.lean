/-!
# Settings

What does not change while the system runs: the words that go into digests, how long a token is
valid, and how deep JSON values may be. The first three are set from outside, and have the values
below as long as they are not. The depths follow from the stack of the interpreter.
-/

namespace Tenancy

/-- The depth to which lists and objects may stand inside each other, as it was measured. -/
def measuredDepth : Nat := 985

theorem measuredDepth_pos : 0 < measuredDepth := by
  decide

/-- What the system runs with. -/
structure Settings where
  /-- The word in front of every password that is digested. -/
  salt : String := "orgadmin-dev-salt"
  /-- The secret of all signatures. -/
  secret : String := "dev-secret-change-me"
  /-- The minutes for which a token is valid unless it is told otherwise. -/
  minutes : Int := 60
  /-- The depth of the body of a request. -/
  bodyDepth : Nat := measuredDepth
  /-- The depth of the parts of a token. -/
  tokenDepth : Nat := measuredDepth
  /-- The parts of a token are objects, so there is room for one. -/
  tokenDepth_pos : 0 < tokenDepth := by exact measuredDepth_pos

/-- The seconds for which a token is valid unless it is told otherwise. -/
def Settings.lifetime (settings : Settings) : Int :=
  60 * settings.minutes

end Tenancy
