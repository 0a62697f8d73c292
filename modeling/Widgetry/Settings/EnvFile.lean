import Widgetry.Text.Utf8

/-!
# Settings files

A settings file assigns values to variables, one `KEY=value` on a line. Blank lines, lines that
begin with `#` and lines without `=` say nothing. A value may stand in quotes, which are dropped.

Loading a file adds to an environment and overrides nothing: a variable that is present keeps its
value, and of several assignments to a variable the first one counts. A NUL character cannot be
part of an environment; the first assignment that would put one there ends the loading.

Written with quotes around every value, assignments are read back as they are.
-/

namespace Widgetry.Settings

/-! ## Assignments -/

/-- The value without the quotes around it. A lone quote is opening and closing quote at once. -/
def unquote (value : Text) : Text :=
  let quotedBy (q : Char) : Bool := value.head? == some q && value.getLast? == some q
  if quotedBy '"' || quotedBy '\x27' then Text.inner value else value

/-- The assignment on a line, if it has one. -/
def assignment? (line : Text) : Option (Text × Text) :=
  let line := Text.trim line
  if line.head? = some '#' then none
  else
    (Text.cutFirst? '=' line).bind fun (key, value) =>
      let key := Text.trim key
      if key = [] then none else some (key, unquote (Text.trim value))

/-- The assignments of a file, in order. -/
def assignments (content : Text) : List (Text × Text) :=
  (Text.pieces Text.isLineEnd content).filterMap assignment?

/-! ## Loading -/

/-- Variables with their values; no variable occurs twice. -/
abbrev Environment : Type := List (Text × Text)

/-- Why loading ended before the end of the file. -/
inductive LoadError where
  | notUtf8 (fault : Text.Utf8Fault)
  | embeddedNul
deriving Repr, DecidableEq

def LoadError.message : LoadError → Text
  | notUtf8 fault => fault.message
  | embeddedNul => "embedded null byte".toList

/-- Makes assignments one after the other to the variables that are not present. -/
def assign (env : Environment) : List (Text × Text) → Environment × Option LoadError
  | [] => (env, none)
  | (key, value) :: rest =>
    if (env.lookup key).isSome then assign env rest
    else if key.contains '\x00' || value.contains '\x00' then (env, some .embeddedNul)
    else assign (env ++ [(key, value)]) rest

/-- Loads a file into an environment. A file that is not UTF-8 changes nothing. -/
def load (env : Environment) (bytes : List UInt8) : Environment × Option LoadError :=
  match Text.ofUtf8 bytes with
  | .ok content => assign env (assignments content)
  | .error fault => (env, some (.notUtf8 fault))

/-! ## Writing -/

/-- An assignment with its value in quotes of the given kind. -/
def writeAssignment (quote : Char) (key value : Text) : Text :=
  key ++ '=' :: quote :: value ++ [quote]

/-- The bytes of a file with one assignment on a line. -/
def write (quote : Char) (assignments : List (Text × Text)) : List UInt8 :=
  Text.toUtf8 (['\n'].intercalate (assignments.map fun (key, value) =>
    writeAssignment quote key value))

end Widgetry.Settings
