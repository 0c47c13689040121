import Catalog.Config.Basic
import Catalog.Toml.Parse
import Catalog.Text.Utf8

/-!
# Loading a configuration file

`Config.load` turns the bytes of a configuration file into a configuration, in four steps,
each with its own failure:

1. the bytes must be UTF-8 (`unreadable`);
2. the text must be a TOML document, and that document must decode as a configuration: the
   required keys present, strings where strings are wanted, and integers in the unsigned
   32-bit range where counts are wanted; other keys are ignored (`malformed`);
3. the configuration is normalized (`Config.normalize`);
4. it must pass `Config.validate` (`invalid`).
-/

namespace Catalog

/-- Why a configuration file was not loaded. -/
inductive LoadError where
  /-- The file is not UTF-8 text. -/
  | unreadable
  /-- The text is not TOML, or not a configuration. -/
  | malformed
  /-- The configuration breaks a rule. -/
  | invalid (problem : ConfigProblem)
  deriving DecidableEq, Repr

namespace LoadError

/-- The name of the kind of failure. -/
def kindName : LoadError → String
  | .unreadable => "Read"
  | .malformed => "Parse"
  | .invalid _ => "Validation"

/-- The message, naming the file as `source`. -/
def message (source : String) : LoadError → String
  | .unreadable => "Failed to read configuration from " ++ source ++ "."
  | .malformed => "Failed to parse configuration from " ++ source ++ "."
  | .invalid p => p.message

end LoadError

/-- **Loads a configuration** from a file's bytes. -/
def Config.load (bytes : List Nat) : Except LoadError Config :=
  match Utf8.decode? bytes with
  | none => .error .unreadable
  | some text =>
    match Toml.parse text with
    | none => .error .malformed
    | some doc =>
      match Config.decode .ignored doc.toJson with
      | .error _ => .error .malformed
      | .ok c =>
        let c := c.normalize
        match c.validate with
        | .error p => .error (.invalid p)
        | .ok () => .ok c

end Catalog
