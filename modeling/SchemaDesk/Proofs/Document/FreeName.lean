import Mathlib.Data.Finset.Card
import Std.Data.String.ToNat
import SchemaDesk.Document.Relation

/-!
# Free names are free

The variants of a name are pairwise distinct, so among one more of them than
there are taken names some variant is free, and the search finds the first. A
search without a bound looks at the same variants and ends at the same one.
-/

namespace SchemaDesk

/-- What a variant adds to its name. -/
def variantEnding : Nat → String
  | 0 => ""
  | 1 => "Related"
  | n => "Related" ++ toString n

theorem nameVariant_eq_append (name : String) (n : Nat) :
    nameVariant name n = name ++ variantEnding n := by
  match n with
  | 0 => exact String.append_empty.symm
  | 1 => rfl
  | n + 2 => exact String.append_assoc

theorem variantEnding_injective : Function.Injective variantEnding := by
  have numbered (k : Nat) : "Related" ++ toString k ≠ "Related" ++ "" := by
    rw [Ne, String.append_right_inj]
    exact Nat.repr_ne_empty
  have long (k : Nat) : "Related" ++ toString k ≠ "" := by
    simp [String.append_eq_empty_iff]
  intro m n same
  match m, n with
  | 0, 0 | 1, 1 => rfl
  | 0, 1 | 1, 0 => exact absurd same (by decide)
  | 0, n + 2 => exact absurd same.symm (long _)
  | m + 2, 0 => exact absurd same (long _)
  | 1, n + 2 => exact absurd same.symm (numbered _)
  | m + 2, 1 => exact absurd same (numbered _)
  | m + 2, n + 2 => exact Nat.repr_injective ((String.append_right_inj "Related").mp same)

theorem nameVariant_injective (name : String) : Function.Injective (nameVariant name) := by
  intro m n same
  rw [nameVariant_eq_append, nameVariant_eq_append, String.append_right_inj] at same
  exact variantEnding_injective same

/-- More variants than there are taken names cannot all be taken. -/
theorem exists_free_variant (taken : List String) (name : String) :
    ∃ n ≤ taken.toFinset.card, nameVariant name n ∉ taken := by
  have more : taken.toFinset.card <
      ((Finset.range (taken.toFinset.card + 1)).image (nameVariant name)).card := by
    rw [Finset.card_image_of_injective _ (nameVariant_injective name), Finset.card_range]
    exact Nat.lt_succ_self _
  obtain ⟨variant, listed, free⟩ := Finset.exists_mem_notMem_of_card_lt_card more
  obtain ⟨n, small, rfl⟩ := Finset.mem_image.mp listed
  exact ⟨n, Nat.le_of_lt_succ (Finset.mem_range.mp small),
    fun used => free (List.mem_toFinset.mpr used)⟩

/-- The search stops at the first free variant, or at the last that is to be tried. -/
theorem freeVariantFrom_spec (taken : List String) (name : String) (tries start : Nat) :
    ∃ n, start ≤ n ∧ n ≤ start + tries ∧
      freeVariantFrom taken name tries start = nameVariant name n ∧
      (∀ i, start ≤ i → i < n → nameVariant name i ∈ taken) ∧
      (n < start + tries → nameVariant name n ∉ taken) := by
  induction tries generalizing start with
  | zero =>
    exact ⟨start, Nat.le_refl _, Nat.le_refl _, rfl, fun i above below => absurd below (by omega),
      by simp⟩
  | succ tries ih =>
    rw [freeVariantFrom]
    split
    · next here =>
      obtain ⟨n, above, below, found, before, free⟩ := ih (start + 1)
      refine ⟨n, by omega, by omega, found, fun i low high => ?_, fun short => free (by omega)⟩
      rcases Nat.eq_or_lt_of_le low with rfl | later
      · exact here
      · exact before i later high
    · next here =>
      exact ⟨start, Nat.le_refl _, by omega, rfl, fun i above below => absurd below (by omega),
        fun _ => here⟩

/-- A free name is the first variant that is not taken. -/
theorem freeName_spec (taken : List String) (name : String) :
    ∃ n ≤ taken.toFinset.card, freeName taken name = nameVariant name n ∧
      nameVariant name n ∉ taken ∧ ∀ i < n, nameVariant name i ∈ taken := by
  obtain ⟨n, -, bounded, found, before, free⟩ := freeVariantFrom_spec taken name taken.length 0
  rw [Nat.zero_add] at bounded free
  obtain ⟨k, small, unused⟩ := exists_free_variant taken name
  have reached : n ≤ k := Nat.le_of_not_lt fun later => unused (before k k.zero_le later)
  refine ⟨n, reached.trans small, found, ?_, fun i => before i i.zero_le⟩
  rcases Nat.eq_or_lt_of_le bounded with atEnd | short
  · -- All tries were used, so the variant is the one that is known to be free.
    have within := small.trans (List.toFinset_card_le taken)
    obtain rfl : n = k := by omega
    exact unused
  · exact free short

theorem freeName_not_mem (taken : List String) (name : String) :
    freeName taken name ∉ taken := by
  obtain ⟨n, -, found, free, -⟩ := freeName_spec taken name
  rwa [found]

/-- The variants that a search without a bound looks at, from the given one on: it ends at one that
is free and goes on behind one that is taken. -/
inductive Search (taken : List String) (name : String) : Nat → List String → Prop
  | free {n : Nat} (unused : nameVariant name n ∉ taken) : Search taken name n [nameVariant name n]
  | taken {n : Nat} {tried : List String} (used : nameVariant name n ∈ taken)
      (rest : Search taken name (n + 1) tried) : Search taken name n (nameVariant name n :: tried)

/-- A search that meets some taken variants and then a free one looks at just these. -/
theorem search_iff {taken : List String} {name : String} {start distance : Nat}
    (used : ∀ n < distance, nameVariant name (start + n) ∈ taken)
    (unused : nameVariant name (start + distance) ∉ taken) {tried : List String} :
    Search taken name start tried ↔
      tried = (List.range' start (distance + 1)).map (nameVariant name) := by
  induction distance generalizing start tried with
  | zero =>
    constructor
    · rintro (_ | ⟨used, -⟩)
      · rfl
      · exact absurd used unused
    · rintro rfl
      exact .free unused
  | succ distance ih =>
    have here : nameVariant name start ∈ taken := used 0 distance.succ_pos
    have behind {tried : List String} : Search taken name (start + 1) tried ↔
        tried = (List.range' (start + 1) (distance + 1)).map (nameVariant name) := by
      refine ih (fun n below => ?_) ?_
      · rw [Nat.add_right_comm]
        exact used (n + 1) (Nat.succ_lt_succ below)
      · rwa [Nat.add_right_comm]
    rw [List.range'_succ, List.map_cons]
    constructor
    · rintro (unused | ⟨-, rest⟩)
      · exact absurd here unused
      · rw [behind.mp rest]
    · rintro rfl
      exact .taken here (behind.mpr rfl)

/-- The variants of a name are distinct. A search without a bound ends, after at most one variant
more than there are taken names, at the first variant that is free, which is the name itself if that
is free. From then on exactly the name that was found is taken as well. -/
theorem search_ends_at_freeName (taken : List String) (name : String) :
    Function.Injective (nameVariant name) ∧
    ∃ last : Nat,
      (∀ tried, Search taken name 0 tried ↔
        tried = (List.range (last + 1)).map (nameVariant name)) ∧
      last + 1 ≤ taken.toFinset.card + 1 ∧
      freeName taken name = nameVariant name last ∧
      (nameVariant name last ∉ taken ∧ ∀ n < last, nameVariant name n ∈ taken) ∧
      (name ∉ taken → freeName taken name = name) ∧
      ∃ later : List String,
        (∀ other, other ∈ later ↔ other ∈ taken ∨ other = freeName taken name) ∧
        ∀ (member : RelationMember) (members : List RelationMember),
          nameMembers taken ({ member with name } :: members) =
            { member with name := freeName taken name } :: nameMembers later members := by
  refine ⟨nameVariant_injective name, ?_⟩
  obtain ⟨last, bounded, found, unused, used⟩ := freeName_spec taken name
  refine ⟨last, fun tried => ?_, Nat.succ_le_succ bounded, found, ⟨unused, used⟩,
    freeName_eq_self taken name, freeName taken name :: taken, fun other => ?_, fun _ _ => rfl⟩
  · rw [List.range_eq_range']
    exact search_iff (by simpa only [Nat.zero_add] using used) (by rwa [Nat.zero_add])
  · rw [List.mem_cons, or_comm]

end SchemaDesk
