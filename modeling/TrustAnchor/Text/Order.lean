/-! Texts in the order of their characters. -/

namespace TrustAnchor.Text

/-- The first character in which two texts differ decides; a text that ends comes first. -/
def listBefore : List Char → List Char → Bool
  | _, [] => false
  | [], _ :: _ => true
  | c :: cs, d :: ds => c.toNat < d.toNat || (c = d && listBefore cs ds)

/-- Whether a text comes before another. -/
def before (s t : String) : Bool := listBefore s.toList t.toList

theorem listBefore_trans {a b c : List Char} (hab : listBefore a b) (hbc : listBefore b c) :
    listBefore a c := by
  induction a generalizing b c with
  | nil =>
    cases c with
    | nil => cases b <;> simp [listBefore] at hbc
    | cons => rfl
  | cons x a ih =>
    cases b with
    | nil => simp [listBefore] at hab
    | cons y b =>
      cases c with
      | nil => simp [listBefore] at hbc
      | cons z c =>
        simp only [listBefore, Bool.or_eq_true, decide_eq_true_eq, Bool.and_eq_true] at *
        rcases hab with hxy | ⟨rfl, hab⟩
        · rcases hbc with hyz | ⟨rfl, _⟩
          · exact .inl (Nat.lt_trans hxy hyz)
          · exact .inl hxy
        · rcases hbc with hyz | ⟨rfl, hbc⟩
          · exact .inl hyz
          · exact .inr ⟨rfl, ih hab hbc⟩

theorem listBefore_total {a b : List Char} (h : a ≠ b) : listBefore a b ∨ listBefore b a := by
  induction a generalizing b with
  | nil =>
    cases b with
    | nil => exact absurd rfl h
    | cons => exact .inl rfl
  | cons x a ih =>
    cases b with
    | nil => exact .inr rfl
    | cons y b =>
      simp only [listBefore, Bool.or_eq_true, decide_eq_true_eq, Bool.and_eq_true]
      rcases Nat.lt_trichotomy x.toNat y.toNat with hxy | hxy | hxy
      · exact .inl (.inl hxy)
      · have hxy : x = y := Char.toNat_inj.1 hxy
        subst hxy
        exact (ih fun e => h (e ▸ rfl)).imp (fun h => .inr ⟨rfl, h⟩) fun h => .inr ⟨rfl, h⟩
      · exact .inr (.inl hxy)

theorem before_trans {s t u : String} (hst : before s t) (htu : before t u) : before s u :=
  listBefore_trans hst htu

theorem before_total {s t : String} (h : s ≠ t) : before s t ∨ before t s :=
  listBefore_total fun e => h (String.toList_inj.1 e)

end TrustAnchor.Text
