import LineLexer.Grammar.Description
import LineLexer.Language.Basic
import LineLexer.Palette
import LineLexer.Text.Quoted

/-!
# Rule dumps

The readable listing of the rules of a language, state by state, after includes have been
replaced by the rules they stand for.  A rule that comes from another state says from
which.
-/

namespace LineLexer.Language

def twoDigits (number : Nat) : String :=
  if number < 10 then "0" ++ toString number else toString number

/-- The listing of a rule with the given number in the given state. -/
def ruleLine (language : Language) (palette : Palette) (state : StateIndex) (index : Nat)
    (rule : Rule) : String :=
  "  " ++ twoDigits index ++ "  " ++
    palette.dimmed ("/" ++ rule.patternText ++ "/") ++ "  " ++ rule.action.description ++
    (if rule.origin = state then ""
      else "  " ++ palette.dimmed ("; from " ++ language.stateName rule.origin)) ++ "\n"

def stateText (language : Language) (palette : Palette) (position : Nat)
    (lexState : LexState) : String :=
  let state := StateIndex.ofPosition position
  "\n[" ++ lexState.name ++ "]" ++
    (if state = language.start then " (start)" else "") ++ "\n" ++
    String.join (lexState.rules.mapIdx (language.ruleLine palette state))

def dumpRules (language : Language) (palette : Palette) : String :=
  "[language]\n" ++
    "name = " ++ language.name ++ "\n" ++
    "postfix = " ++ Text.quoted language.classes.postfixText ++ "\n" ++
    "default = " ++ palette.classLabel
    (language.className language.defaultClass) ++ "\n" ++
    "ignore_case = " ++ (if language.ignoreCase then "true" else "false") ++ "\n" ++
    String.join (language.states.toList.mapIdx (language.stateText palette))

end LineLexer.Language
