import Mathlib.Data.List.Basic

/-!
# Delimited codes

A code is *delimited* if its words can be told apart at the front of any longer word: what was encoded
and what follows it are both determined. Words of one length form such a code, so do words behind their
own length, and delimited words in sequence.
-/

namespace Encoding

variable {ε α β γ : Type}

/-- A word at the front of a text is determined by the text. -/
def Delimited (enc : α → Except ε (List β)) : Prop :=
  ∀ ⦃x y b c s t⦄, enc x = .ok b → enc y = .ok c → b ++ s = c ++ t → x = y ∧ s = t

variable {enc : α → Except ε (List β)}

lemma Delimited.eq_of_eq (h : Delimited enc) {x y : α} {b : List β} (hx : enc x = .ok b)
    (hy : enc y = .ok b) : x = y := (h hx hy (rfl : b ++ [] = b ++ [])).1

lemma Delimited.of_length {f : α → List β} (n : ℕ) (hlen : ∀ x, (f x).length = n)
    (hinj : Function.Injective f) : Delimited fun x => (.ok (f x) : Except ε (List β)) := by
  rintro x y b c s t ⟨⟩ ⟨⟩ heq
  obtain ⟨hword, hrest⟩ := List.append_inj heq ((hlen x).trans (hlen y).symm)
  exact ⟨hinj hword, hrest⟩

lemma Delimited.comp (h : Delimited enc) {g : γ → α} (hg : Function.Injective g) :
    Delimited fun z => enc (g z) := by
  intro x y b c s t hx hy heq
  obtain ⟨hval, hrest⟩ := h hx hy heq
  exact ⟨hg hval, hrest⟩

lemma Delimited.of_header {f : α → List β} {header : ℕ → List β} (n : ℕ) (hlen : ∀ k, (header k).length = n)
    (henc : ∀ {x b}, enc x = .ok b → b = header (f x).length ++ f x)
    (hheader : ∀ {x y b c}, enc x = .ok b → enc y = .ok c →
      header (f x).length = header (f y).length → (f x).length = (f y).length)
    (hinj : Function.Injective f) : Delimited enc := by
  intro x y b c s t hx hy heq
  rw [henc hx, henc hy, List.append_assoc, List.append_assoc] at heq
  obtain ⟨hsame, heq⟩ := List.append_inj heq ((hlen _).trans (hlen _).symm)
  obtain ⟨hword, hrest⟩ := List.append_inj heq (hheader hx hy hsame)
  exact ⟨hinj hword, hrest⟩

lemma bind_ok_ok {δ : Type} {m m' : Except ε γ} {f f' : γ → Except ε δ} {b c : δ}
    (h : (m >>= f) = .ok b ∧ (m' >>= f') = .ok c) :
    ∃ a a', (m = .ok a ∧ m' = .ok a') ∧ f a = .ok b ∧ f' a' = .ok c := by
  obtain ⟨h, h'⟩ := h
  cases m with
  | error e => cases h
  | ok a =>
    cases m' with
    | error e => cases h'
    | ok a' => exact ⟨a, a', ⟨rfl, rfl⟩, h, h'⟩

lemma Delimited.flatten (h : Delimited enc) {xs ys : List α} {bs cs : List (List β)} {s t : List β}
    (hlen : xs.length = ys.length) (hx : xs.mapM enc = .ok bs) (hy : ys.mapM enc = .ok cs)
    (heq : bs.flatten ++ s = cs.flatten ++ t) : xs = ys ∧ s = t := by
  induction xs generalizing ys bs cs with
  | nil =>
    obtain rfl := List.eq_nil_of_length_eq_zero hlen.symm
    cases hx
    cases hy
    exact ⟨rfl, heq⟩
  | cons x xs ih =>
    cases ys with
    | nil => cases hlen
    | cons y ys =>
      rw [List.mapM_cons] at hx hy
      obtain ⟨b, c, hbc, hxy⟩ := bind_ok_ok ⟨hx, hy⟩
      obtain ⟨bs', cs', hrest, hx, hy⟩ := bind_ok_ok hxy
      cases hx
      cases hy
      simp only [List.flatten_cons, List.append_assoc] at heq
      obtain ⟨rfl, heq⟩ := h hbc.1 hbc.2 heq
      obtain ⟨rfl, heq⟩ := ih (Nat.succ.inj hlen) hrest.1 hrest.2 heq
      exact ⟨rfl, heq⟩

end Encoding
