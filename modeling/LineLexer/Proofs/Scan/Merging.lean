import LineLexer.Catalog.PowerQuery
import LineLexer.Proofs.Scan.Tiling

/-!
# Merged lines

Merging makes one token of each run of touching tokens that have one class and are not
brackets.  It keeps the class of every byte and every bracket, and it leaves no two tokens
that could be merged.  There is only one way to fill a line with tokens like that: two
such fillings start with the same token, since the shorter of two first tokens would have
to be followed by one that it could be merged with.
-/

namespace LineLexer

/-- The tokens fill the bytes from the offset `start` up to `stop` without gaps, and none
of them is empty. -/
inductive Fills : (start stop : Nat) → List Token → Prop where
  | nil (offset : Nat) : Fills offset offset []
  | cons {token : Token} {start stop : Nat} {tokens : List Token}
      (start_eq : token.start = start) (nonempty : token.start < token.stop)
      (others : Fills token.stop stop tokens) : Fills start stop (token :: tokens)

/-- The class of the byte at an offset, if a token covers it. -/
def classOver? (tokens : List Token) (offset : Nat) : Option ClassIndex :=
  (tokens.find? (·.covers offset)).map Token.classIndex

def bracketTokens (tokens : List Token) : List Token :=
  tokens.filter (·.side.isSome)

/-- No token could be merged with the one before it. -/
def AreMaximal (tokens : List Token) : Prop :=
  tokens.IsChain fun first second =>
    first.classIndex = second.classIndex → first.side.isSome ∨ second.side.isSome

/-- The lexed line `merged` is the lexed line `line`, of some bytes, with every run of
tokens merged. -/
structure LexedLine.IsMergedForm (line : LexedLine) (length : Nat)
    (merged : LexedLine) : Prop where
  fills : Fills 0 length merged.tokens
  endStack_eq : merged.endStack = line.endStack
  classAt?_eq : ∀ offset, merged.classAt? offset = line.classAt? offset
  classBefore?_eq : ∀ offset, merged.classBefore? offset = line.classBefore? offset
  brackets_eq : bracketTokens merged.tokens = bracketTokens line.tokens
  areMaximal : AreMaximal merged.tokens

variable {start stop length offset : Nat} {current token other : Token}
  {tokens first second : List Token} {line : LexedLine}

theorem Token.covers_iff : token.covers offset = true ↔ token.start ≤ offset ∧
    offset < token.stop := by
  simp [Token.covers]

theorem Token.joins_iff :
    current.joins token = true ↔ current.classIndex = token.classIndex ∧
      current.side = none ∧ token.side = none ∧ current.stop = token.start := by
  simp [Token.joins, and_assoc]

theorem classOver?_cons :
    classOver? (token :: tokens) offset =
      if token.covers offset then some token.classIndex
      else classOver? tokens offset := by
  rw [classOver?, List.find?_cons]
  cases token.covers offset <;> rfl

theorem bracketTokens_cons :
    bracketTokens (token :: tokens) =
      if token.side.isSome then token :: bracketTokens tokens else bracketTokens tokens :=
  List.filter_cons

/-! ### Fillings -/

theorem fills_cons_iff :
    Fills start stop (token :: tokens) ↔
      token.start = start ∧ token.start < token.stop ∧ Fills token.stop stop tokens := by
  constructor
  · intro fills
    cases fills with
    | cons start_eq nonempty others => exact ⟨start_eq, nonempty, others⟩
  · rintro ⟨start_eq, nonempty, others⟩
    exact .cons start_eq nonempty others

namespace Fills

theorem le (fills : Fills start stop tokens) : start ≤ stop := by
  induction fills with
  | nil => exact Nat.le_refl _
  | cons start_eq nonempty others ih => omega

theorem bounds_of_mem (fills : Fills start stop tokens) (member : token ∈ tokens) :
    start ≤ token.start ∧ token.stop ≤ stop := by
  induction fills with
  | nil => exact absurd member List.not_mem_nil
  | cons start_eq nonempty others ih =>
      have := others.le
      rcases List.mem_cons.mp member with rfl | member
      · omega
      · have := ih member
        omega

/-- Bytes before and after the filled ones have no class. -/
theorem classOver?_eq_none (fills : Fills start stop tokens)
    (outside : offset < start ∨ stop ≤ offset) : classOver? tokens offset = none := by
  rw [classOver?, Option.map_eq_none_iff, List.find?_eq_none]
  intro token member covers
  have := fills.bounds_of_mem member
  have := Token.covers_iff.mp covers
  omega

theorem exists_covers (fills : Fills start stop tokens) (after : start ≤ offset)
    (before : offset < stop) : ∃ token, tokens.find? (·.covers offset) = some token := by
  induction fills with
  | nil => omega
  | @cons token start stop tokens start_eq nonempty others ih =>
      by_cases covers : token.covers offset = true
      · exact ⟨token, List.find?_cons_of_pos covers⟩
      · rw [List.find?_cons_of_neg (by simpa using covers)]
        rw [Token.covers_iff] at covers
        exact ih (by omega) before

/-- Every byte belongs to one token only. -/
theorem filter_covers_eq (fills : Fills start stop tokens) (member : token ∈ tokens)
    (covers : token.covers offset = true) :
    tokens.filter (·.covers offset) = [token] := by
  induction fills with
  | nil => exact absurd member List.not_mem_nil
  | @cons first start stop tokens start_eq nonempty others ih =>
      rcases List.mem_cons.mp member with rfl | later
      · have noOthers : tokens.filter (·.covers offset) = [] := by
          refine List.filter_eq_nil_iff.mpr fun other isOther coversToo => ?_
          have := others.bounds_of_mem isOther
          have := Token.covers_iff.mp covers
          have := Token.covers_iff.mp coversToo
          omega
        rw [List.filter_cons, if_pos covers, noOthers]
      · have notFirst : ¬ first.covers offset = true := by
          have := others.bounds_of_mem later
          have := Token.covers_iff.mp covers
          rw [Token.covers_iff]
          omega
        rw [List.filter_cons, if_neg notFirst, ih later]

theorem exists_filter_covers_eq (fills : Fills start stop tokens) (after : start ≤ offset)
    (before : offset < stop) :
    ∃ token ∈ tokens, token.covers offset = true ∧
    tokens.filter (·.covers offset) = [token] := by
  obtain ⟨token, isFound⟩ := fills.exists_covers after before
  have member := List.mem_of_find?_eq_some isFound
  have covers : token.covers offset = true := by simpa using List.find?_some isFound
  exact ⟨token, member, covers, fills.filter_covers_eq member covers⟩

theorem getLast_stop (fills : Fills start stop tokens)
    (isLast : tokens.getLast? = some token) : token.stop = stop := by
  induction fills with
  | nil => simp at isLast
  | cons start_eq nonempty others ih =>
      cases others with
      | nil =>
          obtain rfl := Option.some.inj isLast
          rfl
      | cons =>
          rw [List.getLast?_cons_cons] at isLast
          exact ih isLast

/-- The last byte belongs to the last token. -/
theorem find?_last (fills : Fills start stop tokens) :
    tokens.find? (·.covers (stop - 1)) = tokens.getLast? := by
  induction fills with
  | nil => rfl
  | @cons token start stop tokens start_eq nonempty others ih =>
      have covers_iff : token.covers (stop - 1) = true ↔ tokens = [] := by
        rw [Token.covers_iff]
        cases others with
        | nil => simp; omega
        | cons next_start next_nonempty others =>
            have := others.le
            simp
            omega
      cases tokens with
      | nil => exact List.find?_cons_of_pos (covers_iff.mpr rfl)
      | cons next tokens =>
          rw [List.find?_cons_of_neg (by simp [covers_iff]), ih, List.getLast?_cons_cons]

/-- The class that a line reports at an offset is that of the byte there or, past the
line, of its last byte. -/
theorem classAt?_eq (fills : Fills 0 length line.tokens) (offset : Nat) :
    line.classAt? offset = classOver? line.tokens (min offset (length - 1)) := by
  rw [LexedLine.classAt?, LexedLine.tokenAt?]
  by_cases inside : offset < length
  · obtain ⟨token, isFound⟩ := fills.exists_covers (Nat.zero_le _) inside
    rw [Nat.min_eq_left (by omega), classOver?, isFound]
  · have notCovered : line.tokens.find? (·.covers offset) = none := by
      simpa [classOver?] using fills.classOver?_eq_none (.inr (Nat.le_of_not_lt inside))
    rw [Nat.min_eq_right (by omega), classOver?, fills.find?_last, notCovered]
    cases isLast : line.tokens.getLast? with
    | none => rfl
    | some last =>
        have := fills.getLast_stop isLast
        simp [Option.filter]
        omega

end Fills

/-! ### Merging -/

theorem Tiles.fills {chars : List Char} (tiles : Tiles start chars tokens) :
    Fills start (start + Text.byteLength chars) tokens := by
  induction tiles with
  | nil start => exact .nil start
  | cons nonempty start_eq stop_eq tail ih =>
      have := Text.byteLength_pos nonempty
      rw [Text.byteLength_append, ← Nat.add_assoc, ← stop_eq]
      exact .cons start_eq (by omega) ih

/-- The tokens of every line fill its bytes. -/
theorem fills_lexLine (language : Language) (stack : ActiveStates) (text : String) :
    Fills 0 text.utf8ByteSize (language.lexLine stack text).tokens := by
  have fills := (Scanner.tiles_steps language (Scanner.start text stack)).fills
  change Fills 0 (0 + Text.byteLength text.toList) _ at fills
  rwa [Nat.zero_add, Text.byteLength_toList] at fills

/-- Two tokens of a filling can be made one. -/
theorem Fills.join (fills : Fills start stop (current :: token :: tokens)) :
    Fills start stop ({ current with stop := token.stop } :: tokens) := by
  obtain ⟨start_eq, nonempty, others⟩ := fills_cons_iff.mp fills
  obtain ⟨token_start, token_nonempty, others⟩ := fills_cons_iff.mp others
  refine .cons start_eq ?_ others
  change current.start < token.stop
  omega

/-- Two tokens of a tiling can be made one. -/
theorem Tiles.join {chars : List Char}
    (tiles : Tiles start chars (current :: token :: tokens)) :
    Tiles start chars ({ current with stop := token.stop } :: tokens) := by
  obtain _ | ⟨nonempty, start_eq, stop_eq, _ | ⟨-, -, token_stop, others⟩⟩ := tiles
  rw [← List.append_assoc]
  refine .cons (List.append_ne_nil_of_left_ne_nil nonempty _) start_eq ?_ others
  rw [Text.byteLength_append, ← Nat.add_assoc, ← stop_eq]
  exact token_stop

namespace LexedLine

/-- Merged tokens still cut the same characters. -/
theorem tiles_mergeFrom {chars : List Char}
    (tiles : Tiles start chars (current :: tokens)) :
    Tiles start chars (mergeFrom current tokens) := by
  induction tokens generalizing current start chars with
  | nil => exact tiles
  | cons token tokens ih =>
      rw [mergeFrom]
      split
      · exact ih tiles.join
      · cases tiles with
        | cons nonempty start_eq stop_eq others =>
            exact .cons nonempty start_eq stop_eq (ih others)

theorem tiles_mergedIf {chars : List Char} (tiles : Tiles start chars line.tokens)
    (merge : Bool) : Tiles start chars (line.mergedIf merge).tokens := by
  obtain ⟨tokens, endStack⟩ := line
  cases merge with
  | false => exact tiles
  | true =>
      cases tokens with
      | nil => exact tiles
      | cons token tokens => exact tiles_mergeFrom tiles

theorem fills_mergeFrom (fills : Fills start stop (current :: tokens)) :
    Fills start stop (mergeFrom current tokens) := by
  induction tokens generalizing current start with
  | nil => exact fills
  | cons token tokens ih =>
      rw [mergeFrom]
      split
      · exact ih fills.join
      · obtain ⟨start_eq, nonempty, others⟩ := fills_cons_iff.mp fills
        exact .cons start_eq nonempty (ih others)

theorem classOver?_mergeFrom (fills : Fills start stop (current :: tokens))
    (offset : Nat) :
    classOver? (mergeFrom current tokens) offset =
      classOver? (current :: tokens) offset := by
  induction tokens generalizing current start with
  | nil => rfl
  | cons token tokens ih =>
      rw [mergeFrom]
      split
      · rename_i joins
        obtain ⟨class_eq, -, -, touches⟩ := Token.joins_iff.mp joins
        obtain ⟨-, nonempty, others⟩ := fills_cons_iff.mp fills
        obtain ⟨-, token_nonempty, -⟩ := fills_cons_iff.mp others
        have covers_eq : ({ current with stop := token.stop } : Token).covers offset =
            (current.covers offset || token.covers offset) := by
          rw [Bool.eq_iff_iff, Bool.or_eq_true, Token.covers_iff, Token.covers_iff,
            Token.covers_iff]
          change current.start ≤ offset ∧ offset < token.stop ↔ _
          omega
        rw [ih fills.join, classOver?_cons, classOver?_cons, classOver?_cons, ← class_eq,
          covers_eq]
        cases current.covers offset <;> cases token.covers offset <;> rfl
      · obtain ⟨-, -, others⟩ := fills_cons_iff.mp fills
        rw [classOver?_cons, classOver?_cons, ih others]

theorem bracketTokens_mergeFrom :
    bracketTokens (mergeFrom current tokens) = bracketTokens (current :: tokens) := by
  induction tokens generalizing current with
  | nil => rfl
  | cons token tokens ih =>
      rw [mergeFrom]
      split
      · rename_i joins
        obtain ⟨-, current_side, token_side, -⟩ := Token.joins_iff.mp joins
        rw [ih]
        simp [bracketTokens_cons, current_side, token_side]
      · rw [bracketTokens_cons, bracketTokens_cons, ih]

/-- Merging does not change the class of the first token, nor whether it is a bracket. -/
theorem head?_mergeFrom (current : Token) (tokens : List Token) :
    ∃ first, (mergeFrom current tokens).head? = some first ∧
      first.classIndex = current.classIndex ∧ first.side = current.side := by
  induction tokens generalizing current with
  | nil => exact ⟨current, rfl, rfl, rfl⟩
  | cons token tokens ih =>
      rw [mergeFrom]
      split
      · exact ih { current with stop := token.stop }
      · exact ⟨current, rfl, rfl, rfl⟩

theorem areMaximal_mergeFrom (fills : Fills start stop (current :: tokens)) :
    AreMaximal (mergeFrom current tokens) := by
  induction tokens generalizing current start with
  | nil => exact .singleton current
  | cons token tokens ih =>
      rw [mergeFrom]
      split
      · exact ih fills.join
      · rename_i apart
        obtain ⟨-, -, others⟩ := fills_cons_iff.mp fills
        refine List.isChain_cons.mpr ⟨fun next isNext sameClass => ?_, ih others⟩
        obtain ⟨first, isFirst, class_eq, side_eq⟩ := head?_mergeFrom token tokens
        obtain rfl : first = next := Option.some.inj (isFirst.symm.trans isNext)
        obtain ⟨token_start, -, -⟩ := fills_cons_iff.mp others
        by_contra bare
        rw [not_or, Option.not_isSome_iff_eq_none, Option.not_isSome_iff_eq_none,
          side_eq] at bare
        exact apart (Token.joins_iff.mpr
          ⟨sameClass.trans class_eq, bare.1, bare.2, token_start.symm⟩)

/-- Merging keeps the class of every byte and all brackets, and nothing that is left could
be merged. -/
theorem isMergedForm_merged (fills : Fills 0 length line.tokens) :
    line.IsMergedForm length line.merged := by
  obtain ⟨tokens, endStack⟩ := line
  have merged : Fills 0 length (mergeTokens tokens) ∧
      (∀ offset, classOver? (mergeTokens tokens) offset = classOver? tokens offset) ∧
        bracketTokens (mergeTokens tokens) = bracketTokens tokens ∧
          AreMaximal (mergeTokens tokens) := by
    cases tokens with
    | nil => exact ⟨fills, fun _ => rfl, rfl, .nil⟩
    | cons token tokens =>
        exact ⟨fills_mergeFrom fills, classOver?_mergeFrom fills, bracketTokens_mergeFrom,
          areMaximal_mergeFrom fills⟩
  obtain ⟨mergedFills, sameClass, sameBrackets, areMaximal⟩ := merged
  have classAt?_eq (offset : Nat) :
      LexedLine.classAt? ⟨mergeTokens tokens, endStack⟩ offset =
      LexedLine.classAt? ⟨tokens, endStack⟩ offset := by
    rw [mergedFills.classAt?_eq, fills.classAt?_eq, sameClass]
  refine ⟨mergedFills, rfl, classAt?_eq, fun offset => ?_, sameBrackets, areMaximal⟩
  cases offset with
  | zero => rfl
  | succ offset => exact classAt?_eq offset

end LexedLine

/-! ### The only merged form -/

theorem classOver?_head (fills : Fills start stop (token :: tokens)) :
    classOver? (token :: tokens) start = some token.classIndex := by
  obtain ⟨start_eq, nonempty, -⟩ := fills_cons_iff.mp fills
  rw [classOver?_cons,
    if_pos (Token.covers_iff.mpr ⟨Nat.le_of_eq start_eq, start_eq ▸ nonempty⟩)]

/-- A bracket at the start of one filling stands at the start of the other one. -/
theorem Fills.head_eq_of_isBracket (fills : Fills start stop (token :: first))
    (otherFills : Fills start stop (other :: second))
    (sameBrackets : bracketTokens (token :: first) = bracketTokens (other :: second))
    (isBracket : token.side.isSome) : token = other := by
  rw [bracketTokens_cons, if_pos isBracket] at sameBrackets
  have member : token ∈ other :: second :=
    List.mem_of_mem_filter (sameBrackets ▸ List.mem_cons_self)
  rcases List.mem_cons.mp member with same | inSecond
  · exact same
  · obtain ⟨token_start, -, -⟩ := fills_cons_iff.mp fills
    obtain ⟨other_start, nonempty, others⟩ := fills_cons_iff.mp otherFills
    have := others.bounds_of_mem inSecond
    omega

/-- If no tokens of a filling could be merged, then its first token is not shorter than
that of a filling with the same classes and brackets: the token after it would have its
class and not be a bracket. -/
theorem Fills.stop_head_le (fills : Fills start stop (token :: first))
    (otherFills : Fills start stop (other :: second))
    (areMaximal : AreMaximal (token :: first))
    (sameClass : ∀ offset, classOver? (token :: first) offset =
      classOver? (other :: second) offset)
    (sameBrackets : bracketTokens (token :: first) = bracketTokens (other :: second))
    (tokenBare : token.side = none) (otherBare : other.side = none) :
    other.stop ≤ token.stop := by
  by_contra longer
  have class_eq : token.classIndex = other.classIndex := by
    have atStart := sameClass start
    rwa [classOver?_head fills, classOver?_head otherFills, Option.some.injEq] at atStart
  have other_stop := (otherFills.bounds_of_mem List.mem_cons_self).2
  obtain ⟨token_start, token_nonempty, rest⟩ := fills_cons_iff.mp fills
  obtain ⟨other_start, other_nonempty, others⟩ := fills_cons_iff.mp otherFills
  cases first with
  | nil =>
      cases rest
      exact longer other_stop
  | cons next first =>
      have next_class : next.classIndex = other.classIndex := by
        have atNext := sameClass token.stop
        have notToken : ¬token.covers token.stop = true := by
          rw [Token.covers_iff]
          omega
        have inOther : other.covers token.stop = true := by
          rw [Token.covers_iff]
          omega
        rwa [classOver?_cons, if_neg notToken, classOver?_head rest, classOver?_cons,
          if_pos inOther, Option.some.injEq] at atNext
      have next_isBracket : next.side.isSome := by
        have separated :=
          (List.isChain_cons_cons.mp areMaximal).1 (class_eq.trans next_class.symm)
        simpa [tokenBare] using separated
      have member : next ∈ bracketTokens (other :: second) := by
        rw [← sameBrackets, bracketTokens, List.mem_filter]
        exact ⟨List.mem_cons_of_mem token List.mem_cons_self, next_isBracket⟩
      rcases List.mem_cons.mp (List.mem_of_mem_filter member) with rfl | inSecond
      · simp [otherBare] at next_isBracket
      · obtain ⟨next_start, -, -⟩ := fills_cons_iff.mp rest
        have := others.bounds_of_mem inSecond
        omega

theorem Fills.head_eq (fills : Fills start stop (token :: first))
    (otherFills : Fills start stop (other :: second))
    (areMaximal : AreMaximal (token :: first))
    (otherMaximal : AreMaximal (other :: second))
    (sameClass : ∀ offset, classOver? (token :: first) offset =
      classOver? (other :: second) offset)
    (sameBrackets : bracketTokens (token :: first) = bracketTokens (other :: second)) :
    token = other := by
  cases tokenSide : token.side with
  | some side =>
      exact fills.head_eq_of_isBracket otherFills sameBrackets (by simp [tokenSide])
  | none =>
      cases otherSide : other.side with
      | some side =>
          exact (otherFills.head_eq_of_isBracket fills sameBrackets.symm
            (by simp [otherSide])).symm
      | none =>
          have stop_eq : token.stop = other.stop := Nat.le_antisymm
            (otherFills.stop_head_le fills otherMaximal
              (fun offset => (sameClass offset).symm)
              sameBrackets.symm otherSide tokenSide)
            (fills.stop_head_le otherFills areMaximal sameClass sameBrackets tokenSide
              otherSide)
          have class_eq := sameClass start
          rw [classOver?_head fills, classOver?_head otherFills,
            Option.some.injEq] at class_eq
          obtain ⟨token_start, -, -⟩ := fills_cons_iff.mp fills
          obtain ⟨other_start, -, -⟩ := fills_cons_iff.mp otherFills
          cases token
          cases other
          simp_all

/-- Two fillings of the same bytes in which nothing could be merged are equal if they have
the same classes and brackets. -/
theorem Fills.eq_of_areMaximal (fills : Fills start stop first)
    (otherFills : Fills start stop second) (areMaximal : AreMaximal first)
    (otherMaximal : AreMaximal second)
    (sameClass : ∀ offset, classOver? first offset = classOver? second offset)
    (sameBrackets : bracketTokens first = bracketTokens second) : first = second := by
  induction fills generalizing second with
  | nil offset =>
      cases otherFills with
      | nil => rfl
      | cons start_eq nonempty others =>
          have := others.le
          omega
  | @cons token start stop first start_eq nonempty others ih =>
      have fills : Fills start stop (token :: first) := .cons start_eq nonempty others
      cases second with
      | nil =>
          cases otherFills
          have := others.le
          omega
      | cons other second =>
          obtain rfl :=
            fills.head_eq otherFills areMaximal otherMaximal sameClass sameBrackets
          obtain ⟨-, -, otherRest⟩ := fills_cons_iff.mp otherFills
          have restClass (offset : Nat) :
              classOver? first offset = classOver? second offset := by
            by_cases before : offset < token.stop
            · rw [others.classOver?_eq_none (.inl before),
                otherRest.classOver?_eq_none (.inl before)]
            · have notToken : ¬token.covers offset = true := by
                rw [Token.covers_iff]
                omega
              have atOffset := sameClass offset
              rwa [classOver?_cons, if_neg notToken, classOver?_cons,
                if_neg notToken] at atOffset
          have restBrackets : bracketTokens first = bracketTokens second := by
            rw [bracketTokens_cons, bracketTokens_cons] at sameBrackets
            split at sameBrackets
            · exact (List.cons.inj sameBrackets).2
            · exact sameBrackets
          rw [ih otherRest areMaximal.tail otherMaximal.tail restClass restBrackets]

/-- Lines of as many bytes report the same classes at all offsets exactly if all their
bytes have the same classes. -/
theorem forall_classAt?_eq_iff {other : LexedLine} (fills : Fills 0 length line.tokens)
    (otherFills : Fills 0 length other.tokens) :
    (∀ offset, line.classAt? offset = other.classAt? offset) ↔
      ∀ offset, classOver? line.tokens offset = classOver? other.tokens offset := by
  constructor
  · intro sameClass offset
    by_cases inside : offset < length
    · have atOffset := sameClass offset
      rwa [fills.classAt?_eq, otherFills.classAt?_eq,
        Nat.min_eq_left (by omega)] at atOffset
    · have outside := Nat.le_of_not_lt inside
      rw [fills.classOver?_eq_none (.inr outside),
        otherFills.classOver?_eq_none (.inr outside)]
  · intro sameClass offset
    rw [fills.classAt?_eq, otherFills.classAt?_eq, sameClass]

namespace LexedLine

variable {other merged otherMerged : LexedLine}

theorem IsMergedForm.tokens_eq_iff (isMergedForm : line.IsMergedForm length merged)
    (otherForm : other.IsMergedForm length otherMerged) :
    merged.tokens = otherMerged.tokens ↔
      (∀ offset, line.classAt? offset = other.classAt? offset) ∧
        bracketTokens line.tokens = bracketTokens other.tokens := by
  constructor
  · intro sameTokens
    refine ⟨fun offset => ?_, ?_⟩
    · rw [← isMergedForm.classAt?_eq, ← otherForm.classAt?_eq, classAt?, tokenAt?,
        sameTokens]
      rfl
    · rw [← isMergedForm.brackets_eq, ← otherForm.brackets_eq, sameTokens]
  · rintro ⟨sameClass, sameBrackets⟩
    refine isMergedForm.fills.eq_of_areMaximal otherForm.fills isMergedForm.areMaximal
      otherForm.areMaximal ?_ ?_
    · refine (forall_classAt?_eq_iff isMergedForm.fills otherForm.fills).mp
        fun offset => ?_
      rw [isMergedForm.classAt?_eq, otherForm.classAt?_eq, sameClass]
    · rw [isMergedForm.brackets_eq, otherForm.brackets_eq, sameBrackets]

theorem IsMergedForm.unique (isMergedForm : line.IsMergedForm length merged)
    (otherForm : line.IsMergedForm length otherMerged) : merged = otherMerged := by
  have tokens_eq := (isMergedForm.tokens_eq_iff otherForm).mpr ⟨fun _ => rfl, rfl⟩
  have endStack_eq := isMergedForm.endStack_eq.trans otherForm.endStack_eq.symm
  cases merged
  cases otherMerged
  simp_all

/-- A merged form is its own merged form. -/
theorem IsMergedForm.mem_iff (isMergedForm : line.IsMergedForm length merged)
    {token : Token} (isSide : token.side.isSome) :
    token ∈ merged.tokens ↔ token ∈ line.tokens := by
  have same : token ∈ bracketTokens merged.tokens ↔
      token ∈ bracketTokens line.tokens := by
    rw [isMergedForm.brackets_eq]
  simpa [bracketTokens, isSide] using same

theorem IsMergedForm.self (isMergedForm : line.IsMergedForm length merged) :
    merged.IsMergedForm length merged :=
  ⟨isMergedForm.fills, rfl, fun _ => rfl, fun _ => rfl, rfl, isMergedForm.areMaximal⟩

/-- A line whose tokens fill its bytes has exactly one merged form, which merging gives.
So merging a second time changes nothing, and two such lines of as many bytes have the
same merged tokens exactly if they have the same classes at all offsets and the same
brackets. -/
theorem isMergedForm_iff_eq_merged (fills : Fills 0 length line.tokens) :
    (∀ merged, line.IsMergedForm length merged ↔ merged = line.merged) ∧
      line.merged.merged = line.merged ∧
        ∀ other : LexedLine, Fills 0 length other.tokens →
          (line.merged.tokens = other.merged.tokens ↔
            (∀ offset, line.classAt? offset = other.classAt? offset) ∧
              bracketTokens line.tokens = bracketTokens other.tokens) := by
  have isMergedForm := isMergedForm_merged fills
  refine ⟨fun merged => ⟨fun isForm => isForm.unique isMergedForm, ?_⟩, ?_,
    fun other otherFills => ?_⟩
  · rintro rfl
    exact isMergedForm
  · exact (isMergedForm_merged isMergedForm.fills).unique isMergedForm.self
  · exact isMergedForm.tokens_eq_iff (isMergedForm_merged otherFills)

/-- Two Power Query lines of nine bytes with other characters in a comment: the comment
becomes one token in both, the parentheses that touch each other stay apart, and the
classes are the same everywhere. -/
theorem powerQuery_merged_comments :
    let line := PowerQuery.language.lexLine PowerQuery.language.initialStack "((/* a */"
    let other := PowerQuery.language.lexLine PowerQuery.language.initialStack "((/*é */"
    Fills 0 9 line.tokens ∧ Fills 0 9 other.tokens ∧
      line.tokens.length = 7 ∧ other.tokens.length = 6 ∧
        line.merged.tokens.map (fun token => (token.start, token.stop, token.side)) =
          [(0, 1, some .opening), (1, 2, some .opening), (2, 9, none)] ∧
          line.IsMergedForm 9 line.merged ∧
            ∀ offset, line.classAt? offset = other.classAt? offset := by
  intro line other
  have fills : Fills 0 9 line.tokens := fills_lexLine _ _ "((/* a */"
  have otherFills : Fills 0 9 other.tokens := fills_lexLine _ _ "((/*é */"
  obtain ⟨isMergedForm_iff, -, sameTokens_iff⟩ := isMergedForm_iff_eq_merged fills
  have evaluated : line.tokens.length = 7 ∧ other.tokens.length = 6 ∧
      line.merged.tokens.map (fun token => (token.start, token.stop, token.side)) =
        [(0, 1, some .opening), (1, 2, some .opening), (2, 9, none)] ∧
        line.merged.tokens = other.merged.tokens := by
    decide +kernel
  obtain ⟨lineLength, otherLength, spans, sameTokens⟩ := evaluated
  exact ⟨fills, otherFills, lineLength, otherLength, spans,
    (isMergedForm_iff line.merged).mpr rfl,
    ((sameTokens_iff other otherFills).mp sameTokens).1⟩

end LexedLine

end LineLexer
