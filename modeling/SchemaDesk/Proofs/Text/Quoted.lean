import SchemaDesk.Text.Quoted

/-!
# Quoted strings are read back

Every character is read back from its escape or from itself, so a text is read
back from its quoted form, whatever follows the closing quote. This holds in
every style in which control characters do not stand for themselves. Escapes
consist of printable ASCII.
-/

namespace SchemaDesk.Text

theorem hexUnit?_hex {n : Nat} (small : n < 0x10000) :
    ∃ a b c d, hex 4 n = [a, b, c, d] ∧ hexUnit? a b c d = some n := by
  refine ⟨_, _, _, _, rfl, ?_⟩
  have digit (m : Nat) : hexValue? (hexDigit (m % 16)) = some (m % 16) :=
    hexValue?_hexDigit _ (Nat.mod_lt m (by decide))
  simp only [hexUnit?, digit, Option.bind_eq_bind, Option.bind_some, Option.some.injEq]
  omega

namespace Quoted

/-- Control characters do not stand for themselves. -/
def Style.Sound (style : Style) : Prop :=
  ∀ c, style.plain c = true → 32 ≤ c.toNat

theorem Style.sound_ascii : Style.ascii.Sound := by
  intro c plain
  simp only [ascii, Bool.and_eq_true, decide_eq_true_eq] at plain
  exact plain.1

theorem Style.sound_document : Style.document.Sound := by
  intro c plain
  simpa [document] using plain

/-- The text with a character before it. -/
def push (c : Char) (read : List Char × List Char) : List Char × List Char :=
  (c :: read.1, read.2)

/-- A unit that is no surrogate is a character by itself. -/
theorem readRest_unitEscape {unit : Nat} (small : unit < 0x10000)
    (high : isHighSurrogate unit = false) (low : isLowSurrogate unit = false) (rest : List Char) :
    readRest (unitEscape unit ++ rest) = (readRest rest).map (push (Char.ofNat unit)) := by
  obtain ⟨a, b, c, d, digits, value⟩ := hexUnit?_hex small
  rw [unitEscape, digits]
  simp only [List.cons_append, List.nil_append]
  rw [readRest.eq_def]
  cases remaining : readRest rest <;> simp [value, high, low, remaining, push]

/-- Two surrogates are one character. -/
theorem readRest_pair {high low : Nat} (opens : isHighSurrogate high = true)
    (closes : isLowSurrogate low = true) (rest : List Char) :
    readRest (unitEscape high ++ (unitEscape low ++ rest)) =
      (readRest rest).map (push (pairChar high low)) := by
  have bounds : high < 0x10000 ∧ low < 0x10000 := by
    simp only [isHighSurrogate, isLowSurrogate, Bool.and_eq_true, decide_eq_true_eq] at opens closes
    omega
  obtain ⟨a, b, c, d, digits, value⟩ := hexUnit?_hex bounds.1
  obtain ⟨e, f, g, h, others, second⟩ := hexUnit?_hex bounds.2
  rw [unitEscape, unitEscape, digits, others]
  simp only [List.cons_append, List.nil_append]
  rw [readRest.eq_def]
  cases remaining : readRest rest <;> simp [value, second, opens, closes, remaining, push]

/-- A character is no surrogate. -/
theorem not_surrogate (c : Char) :
    isHighSurrogate c.toNat = false ∧ isLowSurrogate c.toNat = false := by
  have valid : c.toNat < 0xd800 ∨ 0xdfff < c.toNat ∧ c.toNat < 0x110000 := c.valid
  simp only [isHighSurrogate, isLowSurrogate, Bool.and_eq_false_iff, decide_eq_false_iff_not]
  omega

theorem readRest_codeEscape (c : Char) (rest : List Char) :
    readRest (codeEscape c ++ rest) = (readRest rest).map (push c) := by
  unfold codeEscape
  dsimp only
  split
  · next small =>
    obtain ⟨high, low⟩ := not_surrogate c
    rw [readRest_unitEscape small high low, Char.ofNat_toNat]
  · next large =>
    have bound : c.toNat < 0x110000 := by
      have valid : c.toNat < 0xd800 ∨ 0xdfff < c.toNat ∧ c.toNat < 0x110000 := c.valid
      omega
    generalize quotient : (c.toNat - 0x10000) / 0x400 = upper
    generalize remainder : (c.toNat - 0x10000) % 0x400 = lower
    have opens : isHighSurrogate (0xd800 + upper) = true := by
      simp only [isHighSurrogate, Bool.and_eq_true, decide_eq_true_eq]
      omega
    have closes : isLowSurrogate (0xdc00 + lower) = true := by
      simp only [isLowSurrogate, Bool.and_eq_true, decide_eq_true_eq]
      omega
    have same : pairChar (0xd800 + upper) (0xdc00 + lower) = c := by
      have sum : 0x10000 + (0xd800 + upper - 0xd800) * 0x400 + (0xdc00 + lower - 0xdc00) =
          c.toNat := by omega
      rw [pairChar, sum, Char.ofNat_toNat]
    rw [List.append_assoc, readRest_pair opens closes, same]

/-- A short escape stands for its character. -/
theorem readRest_short {c e : Char} (other : e ≠ 'u') (short : shortEscape? e = some c)
    (rest : List Char) : readRest ('\\' :: e :: rest) = (readRest rest).map (push c) := by
  rw [readRest.eq_def]
  cases remaining : readRest rest <;> simp [other, short, remaining, push]

theorem readRest_writeChar {style : Style} (sound : style.Sound) (c : Char) (rest : List Char) :
    readRest (writeChar style c ++ rest) = (readRest rest).map (push c) := by
  unfold writeChar
  -- Quote and backslash are escaped first, so a plain character is neither of them.
  by_cases quote : c = '"'
  · subst quote
    exact readRest_short (by decide) rfl rest
  by_cases backslash : c = '\\'
  · subst backslash
    exact readRest_short (by decide) rfl rest
  rw [if_neg quote, if_neg backslash]
  split
  · next same => exact readRest_short (by decide) (by subst same; rfl) rest
  split
  · next same => exact readRest_short (by decide) (by subst same; rfl) rest
  split
  · next same => exact readRest_short (by decide) (by subst same; rfl) rest
  split
  · next same => exact readRest_short (by decide) (by subst same; rfl) rest
  split
  · next same => exact readRest_short (by decide) (by subst same; rfl) rest
  split
  · next plain =>
    have visible := Nat.not_lt.mpr (sound c plain)
    rw [List.singleton_append, readRest.eq_def]
    cases remaining : readRest rest <;> simp [quote, backslash, visible, remaining, push]
  · exact readRest_codeEscape c rest

/-- A text is read back up to its closing quote. -/
theorem readRest_write {style : Style} (sound : style.Sound) (text rest : List Char) :
    readRest (text.flatMap (writeChar style) ++ '"' :: rest) = some (text, rest) := by
  induction text with
  | nil =>
    rw [List.flatMap_nil, List.nil_append, readRest.eq_def]
    rfl
  | cons c text ih =>
    rw [List.flatMap_cons, List.append_assoc, readRest_writeChar sound, ih]
    rfl

theorem write_append (style : Style) (text rest : List Char) :
    write style text ++ rest = '"' :: (text.flatMap (writeChar style) ++ '"' :: rest) := by
  simp [write_eq]

/-- The closing quote of a text is found, whatever follows it. -/
theorem write_append_inj {style : Style} (sound : style.Sound) {text other rest behind : List Char}
    (same : write style text ++ rest = write style other ++ behind) :
    text = other ∧ rest = behind := by
  rw [write_append, write_append] at same
  have read := congrArg readRest (List.cons.inj same).2
  rw [readRest_write sound, readRest_write sound] at read
  exact Prod.mk.inj (Option.some.inj read)

/-- The character is printable ASCII. -/
def IsVisible (c : Char) : Prop :=
  32 ≤ c.toNat ∧ c.toNat ≤ 126

theorem isVisible_of_mem_hex (width n : Nat) : ∀ c ∈ hex width n, IsVisible c := by
  have digit : ∀ m : Fin 16, 32 ≤ (hexDigit m.val).toNat ∧ (hexDigit m.val).toNat ≤ 126 := by decide
  exact forall_mem_hex digit width n

theorem isVisible_of_mem_unitEscape (unit : Nat) : ∀ c ∈ unitEscape unit, IsVisible c :=
  List.forall_mem_cons.mpr ⟨⟨by decide, by decide⟩,
    List.forall_mem_cons.mpr ⟨⟨by decide, by decide⟩, isVisible_of_mem_hex 4 unit⟩⟩

theorem isVisible_of_mem_codeEscape (c : Char) : ∀ d ∈ codeEscape c, IsVisible d := by
  unfold codeEscape
  dsimp only
  split
  · exact isVisible_of_mem_unitEscape _
  · exact List.forall_mem_append.mpr
      ⟨isVisible_of_mem_unitEscape _, isVisible_of_mem_unitEscape _⟩

/-- What is written for a character is printable ASCII, or the character itself. -/
theorem mem_writeChar {style : Style} {c : Char} :
    ∀ d ∈ writeChar style c, IsVisible d ∨ style.plain d = true := by
  have escape (e : Char) (visible : IsVisible e) :
      ∀ d ∈ ['\\', e], IsVisible d ∨ style.plain d = true :=
    List.forall_mem_cons.mpr
      ⟨.inl ⟨by decide, by decide⟩, List.forall_mem_singleton.mpr (.inl visible)⟩
  unfold writeChar
  repeat' split
  all_goals first
    | exact escape _ ⟨by decide, by decide⟩
    | exact fun d inside => .inl (isVisible_of_mem_codeEscape c d inside)
    | next plain => exact List.forall_mem_singleton.mpr (.inr plain)

theorem mem_write {style : Style} (text : List Char) :
    ∀ c ∈ write style text, IsVisible c ∨ style.plain c = true := by
  have quote : IsVisible '"' := ⟨by decide, by decide⟩
  rw [write_eq]
  refine List.forall_mem_append.mpr ⟨List.forall_mem_cons.mpr ⟨.inl quote, ?_⟩,
    List.forall_mem_singleton.mpr (.inl quote)⟩
  exact List.forall_mem_flatMap.mpr fun _ _ => mem_writeChar

/-- In the narrower style all that is written is printable ASCII. -/
theorem isVisible_of_mem_write (text : List Char) : ∀ c ∈ write .ascii text, IsVisible c := by
  intro c inside
  rcases mem_write text c inside with visible | plain
  · exact visible
  · simpa [Style.ascii, IsVisible] using plain

theorem no_feed_write (text : List Char) : '\n' ∉ write .ascii text :=
  fun inside => absurd (isVisible_of_mem_write text '\n' inside).1 (by decide)

end Quoted

end SchemaDesk.Text
