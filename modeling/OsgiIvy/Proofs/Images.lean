import OsgiIvy.Assoc
import OsgiIvy.Distinct

/-!
# Images of mappings and lists

A map that keeps equality apart from inequality commutes with look-ups, with writing into a mapping
and with leaving out repetitions.  Equality of the images need not be lawful.
-/

namespace OsgiIvy

variable {α β : Type} [BEq α] [BEq β] {f : α → β}

/-! ### Mappings -/

namespace Assoc

variable {ν ω : Type}

theorem lookup_image (hf : ∀ a b, (f a == f b) = (a == b)) (g : ν → ω) (k : α)
    (es : List (α × ν)) : (es.map fun e => (f e.1, g e.2)).lookup (f k) = (es.lookup k).map g := by
  induction es with
  | nil => rfl
  | cons e es ih =>
    rw [List.map_cons, List.lookup_cons, List.lookup_cons, hf]
    cases k == e.1 with
    | true => rfl
    | false => exact ih

theorem alterEntries_image (hf : ∀ a b, (f a == f b) = (a == b)) (g : ν → ω)
    (change : Option ν → ν) (change' : Option ω → ω)
    (hchange : ∀ o, change' (o.map g) = g (change o)) (k : α) (es : List (α × ν)) :
    alterEntries (f k) change' (es.map fun e => (f e.1, g e.2)) =
      (alterEntries k change es).map fun e => (f e.1, g e.2) := by
  induction es with
  | nil => exact congrArg (fun w => [(f k, w)]) (hchange none)
  | cons e es ih =>
    rw [List.map_cons, alterEntries, alterEntries, hf]
    have hvalue : change' (some (g e.2)) = g (change (some e.2)) := hchange (some e.2)
    cases k == e.1 with
    | true => simp [hvalue]
    | false => simp [ih]

end Assoc

/-! ### Lists without repetitions -/

theorem contains_image {as : List α} {a : α} (hf : ∀ b ∈ as, (f a == f b) = (a == b)) :
    (as.map f).contains (f a) = as.contains a := by
  induction as with
  | nil => rfl
  | cons b as ih =>
    rw [List.map_cons, List.contains_cons, List.contains_cons, hf b List.mem_cons_self,
      ih fun c hc => hf c (List.mem_cons_of_mem b hc)]

theorem addNew_image {as : List α} {a : α} (hf : ∀ b ∈ as, (f a == f b) = (a == b)) :
    addNew (as.map f) (f a) = (addNew as a).map f := by
  rw [addNew, addNew, contains_image hf]
  cases as.contains a with
  | true => rfl
  | false => simp

omit [BEq β] in
theorem mem_of_mem_addNew {as : List α} {a b : α} (h : b ∈ addNew as a) : b ∈ as ∨ b = a := by
  rw [addNew] at h
  split at h
  · exact .inl h
  · exact (List.mem_append.mp h).imp_right List.mem_singleton.mp

omit [BEq β] in
theorem mem_of_mem_foldl_addNew {as bs : List α} {a : α} (h : a ∈ bs.foldl addNew as) :
    a ∈ as ∨ a ∈ bs := by
  induction bs generalizing as with
  | nil => exact .inl h
  | cons b bs ih =>
    rcases ih h with hmem | hmem
    · refine (mem_of_mem_addNew hmem).imp_right ?_
      rintro rfl
      exact List.mem_cons_self
    · exact .inr (List.mem_cons_of_mem b hmem)

omit [BEq β] in
theorem mem_of_mem_distinct {as : List α} {a : α} (h : a ∈ distinct as) : a ∈ as :=
  (mem_of_mem_foldl_addNew h).resolve_left List.not_mem_nil

theorem foldl_addNew_image (as : List α) {bs : List α}
    (hf : ∀ a ∈ as ++ bs, ∀ b ∈ as ++ bs, (f a == f b) = (a == b)) :
    (bs.map f).foldl addNew (as.map f) = (bs.foldl addNew as).map f := by
  induction bs generalizing as with
  | nil => rfl
  | cons b bs ih =>
    have hb : ∀ a ∈ as, (f b == f a) = (b == a) := fun a ha =>
      hf b (List.mem_append_right as List.mem_cons_self) a (List.mem_append_left _ ha)
    have hall : ∀ c ∈ addNew as b ++ bs, c ∈ as ++ b :: bs := by
      intro c hc
      rcases List.mem_append.mp hc with hc | hc
      · rcases mem_of_mem_addNew hc with hc | rfl
        · exact List.mem_append_left _ hc
        · exact List.mem_append_right _ List.mem_cons_self
      · exact List.mem_append_right _ (List.mem_cons_of_mem b hc)
    rw [List.map_cons, List.foldl_cons, List.foldl_cons, addNew_image hb]
    exact ih _ fun c hc d hd => hf c (hall c hc) d (hall d hd)

section Transitive

variable (htrans : ∀ a b c : α, (a == b) = true → (b == c) = true → (a == c) = true)
include htrans

omit [BEq β] in
theorem contains_foldl_addNew {as bs : List α} {a : α} :
    (bs.foldl addNew as).contains a = (as.contains a || bs.contains a) := by
  induction bs generalizing as with
  | nil => simp
  | cons b bs ih =>
    have hstep : (addNew as b).contains a = (as.contains a || a == b) := by
      rw [addNew]
      split
      · next hb =>
        cases hab : a == b with
        | false => rw [Bool.or_false]
        | true =>
          obtain ⟨c, hc, hbc⟩ := List.contains_iff_exists_mem_beq.mp hb
          rw [Bool.or_true]
          exact List.contains_iff_exists_mem_beq.mpr ⟨c, hc, htrans a b c hab hbc⟩
      · simp
    rw [List.foldl_cons, ih, hstep, List.contains_cons, Bool.or_assoc]

omit [BEq β] in
/-- Where equality is transitive, a list without its repetitions still contains the same. -/
theorem contains_distinct (as : List α) (a : α) :
    (distinct as).contains a = as.contains a := by
  rw [distinct, contains_foldl_addNew htrans, List.contains_nil, Bool.false_or]

end Transitive

theorem distinct_image {as : List α} (hf : ∀ a ∈ as, ∀ b ∈ as, (f a == f b) = (a == b)) :
    distinct (as.map f) = (distinct as).map f :=
  foldl_addNew_image [] hf

end OsgiIvy
