/-!
# Why a YAML text cannot be loaded

Most texts that cannot be loaded are no YAML documents, and then nothing is said about the reason.
The other faults have a reason of their own.  Nearly all of them concern a single scalar: its text
has the form of a type but no value of it.
-/

namespace ApiDocs.Yaml

/-- The reason why a text cannot be loaded. -/
inductive Fault where
  /-- The text is no YAML document, or it is one that cannot be represented. -/
  | malformed
  /-- A truth value is spelled by none of its words. -/
  | noTruthValue
  /-- A number has no digits at all. -/
  | emptyNumber
  /-- A text where a number should stand does not spell one, or has too many digits. -/
  | noNumber
  /-- A number with a point in base sixty has too many parts. -/
  | hugeNumber
  /-- A text marked as a time does not have the form of one. -/
  | noTime
  /-- A mapping is marked as a time. -/
  | mappedTime
  /-- A text has the form of a time, but calendar or clock do not have it. -/
  | impossibleTime
  /-- An escape names a code above the last character. -/
  | noCharacter
  /-- An escape names a code of more than 31 bits. -/
  | hugeCharacter
  /-- Collections are nested, or refer to each other, too deeply. -/
  | tooDeep
  deriving Repr, DecidableEq, Inhabited

end ApiDocs.Yaml
