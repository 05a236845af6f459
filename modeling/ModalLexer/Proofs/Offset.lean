import ModalLexer.Span

/-! Offsets in a source. A byte offset on a character boundary splits a source in one way only, so
places may be told by their bytes or by the characters before them. -/
namespace ModalLexer

theorem utf8SizeZero {text : List Char} (none : utf8Size text = 0) : text = [] := by
  cases text with
  | nil => rfl
  | cons c rest =>
    have positive := c.utf8Size_pos
    simp only [utf8SizeCons] at none
    omega

theorem utf8SizePositive {text : List Char} (filled : text ≠ []) : 0 < utf8Size text :=
  Nat.pos_of_ne_zero fun none => filled (utf8SizeZero none)

theorem gapBetween {a b x y : List Char} (same : a ++ x = b ++ y)
    (earlier : utf8Size a ≤ utf8Size b) : ∃ gap, b = a ++ gap ∧ x = gap ++ y := by
  rcases List.append_eq_append_iff.mp same with ⟨gap, left, right⟩ | ⟨gap, left, right⟩
  · exact ⟨gap, left, right⟩
  · have none : gap = [] := by
      apply utf8SizeZero
      have sizes := congrArg utf8Size left
      rw [utf8SizeAppend] at sizes
      omega
    subst none
    exact ⟨[], by simpa using left.symm, by simpa using right.symm⟩

theorem samePlace {a b x y : List Char} (same : a ++ x = b ++ y) (bytes : utf8Size a = utf8Size b) :
    a = b ∧ x = y := by
  obtain ⟨gap, left, right⟩ := gapBetween same (Nat.le_of_eq bytes)
  have none : gap = [] := by
    apply utf8SizeZero
    rw [left, utf8SizeAppend] at bytes
    omega
  subst none
  exact ⟨by simpa using left.symm, by simpa using right⟩

theorem lengthBelow (text : List Char) : text.length ≤ utf8Size text := by
  induction text with
  | nil => exact Nat.le_refl _
  | cons c rest ih =>
    have positive := c.utf8Size_pos
    rw [List.length_cons, utf8SizeCons]
    omega

theorem lengthBytes (text : List Char) :
    text.length = utf8Size text ↔ ∀ c ∈ text, c.utf8Size = 1 := by
  induction text with
  | nil => simp
  | cons c rest ih =>
    have positive := c.utf8Size_pos
    have below := lengthBelow rest
    rw [List.forall_mem_cons, ← ih, List.length_cons, utf8SizeCons]
    omega

theorem sizeOne {c : Char} : c.utf8Size = 1 ↔ c.toNat < 128 := by
  rw [Char.utf8Size_eq_one_iff, UInt32.le_iff_toNat_le]
  exact Nat.lt_succ_iff.symm

theorem clampMono {a b : Nat} (ordered : a ≤ b) : clampOffset a ≤ clampOffset b :=
  Nat.le_min.mpr ⟨Nat.le_trans (Nat.min_le_left a _) ordered, Nat.min_le_right a _⟩

structure Cut (source : String) (span : Span) (before slice after : List Char) : Prop where
  whole : source.toList = before ++ (slice ++ after)
  start : utf8Size before = span.start
  stop : utf8Size before + utf8Size slice = span.stop

theorem cutUnique {source span b s a b' s' a'} (left : Cut source span b s a)
    (right : Cut source span b' s' a') : b = b' ∧ s = s' ∧ a = a' := by
  have start := left.start.trans right.start.symm
  have stop := left.stop.trans right.stop.symm
  obtain ⟨same, rest⟩ := samePlace (left.whole.symm.trans right.whole) start
  exact ⟨same, samePlace rest (by omega)⟩

theorem betweenExact {start stop : Nat} (ordered : start ≤ stop) (small : stop ≤ largestOffset) :
    Span.between start stop = ⟨start, stop⟩ := by
  rw [Span.between, clampOffsetExact (Nat.le_trans ordered small), clampOffsetExact small]

end ModalLexer
