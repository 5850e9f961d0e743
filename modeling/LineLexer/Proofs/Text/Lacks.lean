import LineLexer.Proofs.Json
import LineLexer.Proofs.Text.Quoted

/-!
# Texts without a character

Reports are put together from fixed texts, names, numbers and quoted texts.  What their
readers rely on is that a certain character is missing from most of these: the one that
escape sequences start with, the quote, the line feed.
-/

namespace LineLexer.Text

/-- A text that does not hold a certain character. -/
def Lacks (char : Char) (text : String) : Prop :=
  char ∉ text.toList

namespace Lacks

instance (char : Char) (text : String) : Decidable (Lacks char text) :=
  inferInstanceAs (Decidable (char ∉ text.toList))

variable {char : Char} {first second text : String} {texts : List String}

theorem empty : Lacks char "" :=
  List.not_mem_nil

theorem append (lacksFirst : Lacks char first) (lacksSecond : Lacks char second) :
    Lacks char (first ++ second) := by
  rw [Lacks, String.toList_append, List.mem_append]
  exact fun member => member.elim lacksFirst lacksSecond

theorem intercalate (lacksSeparator : Lacks char first)
    (areLacking : ∀ text ∈ texts, Lacks char text) :
    Lacks char (first.intercalate texts) := by
  induction texts with
  | nil => exact .empty
  | cons text texts ih =>
      obtain ⟨lacksText, others⟩ := List.forall_mem_cons.mp areLacking
      cases texts with
      | nil => rwa [String.intercalate_singleton]
      | cons next texts =>
          rw [String.intercalate_cons_cons]
          exact (lacksText.append lacksSeparator).append (ih others)

theorem toString (notDigit : char.isDigit = false) (number : Nat) :
    Lacks char (ToString.toString number) :=
  fun member => Bool.false_ne_true
    (notDigit.symm.trans (Json.isDigit_of_mem_toString member))

theorem replicate {fill : Char} (other : char ≠ fill) (count : Nat) :
    Lacks char (String.ofList (List.replicate count fill)) := by
  rw [Lacks, String.toList_ofList]
  exact fun member => other (List.eq_of_mem_replicate member)

theorem quoted (isHidden : isVisible char = false) (text : String) :
    Lacks char (Text.quoted text) :=
  not_mem_quoted isHidden text

end Lacks

end LineLexer.Text
