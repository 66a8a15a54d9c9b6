import Protogen.Event
import Protogen.Text.Alphabet
import Protogen.Text.Blank

/-!
# Verbosity

Which events are shown is a list of rules separated by commas. A rule is a level,
the beginning of a target, or both with an equals sign between; a target without
a level shows everything. For an event the rule with the longest matching target decides,
the last one if there are several. Without any rule only errors are shown, and if
a rule makes no sense there is the standard verbosity instead.
-/

namespace Protogen

open Text

/-- Events from targets that begin with `target`, up to a rank of their level. -/
structure VerbosityRule where
  target : String
  rank : Nat
  deriving DecidableEq, Repr

structure Verbosity where
  rules : List VerbosityRule
  deriving DecidableEq, Repr

namespace Verbosity

def standard : Verbosity := ⟨[⟨"", Level.info.rank⟩]⟩

def rankNames : List (String × Nat) :=
  [("off", 0), ("error", 1), ("warn", 2), ("info", 3), ("debug", 4), ("trace", 5),
   ("0", 0), ("1", 1), ("2", 2), ("3", 3), ("4", 4), ("5", 5)]

def rank? (s : String) : Option Nat := rankNames.lookup s.toLower

/-- Whether a target can begin with the character. -/
def isTargetStart (c : Char) : Bool :=
  c == '-' || c == ':' || c == '_' || isAlphanumeric c

def rule? (s : String) : Option VerbosityRule :=
  if !((s.toList.head?.map isTargetStart).getD false) then none
  else match s.toList.dropWhile (· != '=') with
    | [] =>
      match rank? s with
      | some rank => some ⟨"", rank⟩
      | none => some ⟨s, Level.trace.rank⟩
    | _ :: level =>
      (if level.isEmpty then some Level.trace.rank else rank? (String.ofList level)).map fun rank =>
        ⟨String.ofList (s.toList.takeWhile (· != '=')), rank⟩

def ofText (s : String) : Verbosity :=
  match (((s.splitOn ",").filter fun part => !part.isEmpty).mapM fun part => rule? (trim part)) with
  | some [] => ⟨[⟨"", Level.error.rank⟩]⟩
  | some rules => ⟨rules⟩
  | none => standard

/-- The better of two rules, the second if they are equally good. -/
def longer (a : Option VerbosityRule) (b : VerbosityRule) : Option VerbosityRule :=
  match a with
  | some a => if b.target.length < a.target.length then some a else some b
  | none => some b

def shows (v : Verbosity) (e : Event) : Bool :=
  match (v.rules.filter fun r => r.target.toList.isPrefixOf e.target.toList).foldl longer none with
  | some rule => decide (e.level.rank ≤ rule.rank)
  | none => false

end Verbosity

end Protogen
