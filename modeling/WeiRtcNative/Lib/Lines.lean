import Mathlib.Data.List.Forall2

/-!
# Streams of terminated lines

A line is a word without the terminator, followed by it. A stream of lines can be
cut anywhere; it is cut at the line ends exactly when every piece is a line.
-/

namespace Lines

set_option autoImplicit false

universe u
variable {α : Type u} (stop : α)

def terminated (words : List (List α)) : List (List α) := words.map (· ++ [stop])

/-- One word with its terminator and no other. -/
def IsLine (piece : List α) : Prop := ∃ word, stop ∉ word ∧ piece = word ++ [stop]

variable {stop}

theorem append_stop_inj {a b r s : List α} (ha : stop ∉ a) (hb : stop ∉ b)
    (h : a ++ stop :: r = b ++ stop :: s) : a = b ∧ r = s := by
  induction a generalizing b with
  | nil =>
    cases b with
    | nil => exact ⟨rfl, by simpa using h⟩
    | cons y b =>
      have hy : stop = y := (List.cons.inj h).1
      exact absurd (hy ▸ List.mem_cons_self) hb
  | cons x a ih =>
    cases b with
    | nil =>
      have hx : x = stop := (List.cons.inj h).1
      exact absurd (hx ▸ List.mem_cons_self) ha
    | cons y b =>
      obtain ⟨hxy, hrest⟩ := List.cons.inj h
      have hab := ih (fun hm => ha (List.mem_cons_of_mem x hm))
        (fun hm => hb (List.mem_cons_of_mem y hm)) hrest
      exact ⟨by rw [hxy, hab.1], hab.2⟩

/-- Pieces that are lines and join to a stream of lines are its lines. -/
theorem pieces_eq_terminated {words pieces : List (List α)} (hwords : ∀ w ∈ words, stop ∉ w)
    (hpieces : ∀ p ∈ pieces, IsLine stop p)
    (h : pieces.flatten = (terminated stop words).flatten) : pieces = terminated stop words := by
  induction words generalizing pieces with
  | nil =>
    cases pieces with
    | nil => rfl
    | cons p pieces =>
      obtain ⟨word, _, rfl⟩ := hpieces p List.mem_cons_self
      simp [terminated] at h
  | cons w words ih =>
    cases pieces with
    | nil => simp [terminated] at h
    | cons p pieces =>
      obtain ⟨word, hword, rfl⟩ := hpieces p List.mem_cons_self
      have hsplit : word ++ stop :: pieces.flatten =
          w ++ stop :: (terminated stop words).flatten := by
        simpa [terminated] using h
      obtain ⟨rfl, hrest⟩ := append_stop_inj hword (hwords w List.mem_cons_self) hsplit
      have htail := ih (fun v hv => hwords v (List.mem_cons_of_mem _ hv))
        (fun q hq => hpieces q (List.mem_cons_of_mem _ hq)) hrest
      rw [htail]
      rfl

theorem isLine_of_mem_terminated {words : List (List α)} (hwords : ∀ w ∈ words, stop ∉ w)
    {p : List α} (hp : p ∈ terminated stop words) : IsLine stop p := by
  obtain ⟨w, hw, rfl⟩ := List.mem_map.mp hp
  exact ⟨w, hwords w hw, rfl⟩

/-- A piece is the word itself or the whole line. -/
def Carries (stop : α) (word piece : List α) : Prop := piece = word ∨ piece = word ++ [stop]

/-- If every piece carries one word, no terminator can be missing: it would have to
open the next piece. -/
theorem carried_eq_terminated {words pieces : List (List α)}
    (hwords : ∀ w ∈ words, stop ∉ w ∧ w ≠ [])
    (hcarry : List.Forall₂ (Carries stop) words pieces)
    (h : pieces.flatten = (terminated stop words).flatten) : pieces = terminated stop words := by
  induction hcarry with
  | nil => rfl
  | @cons w p words pieces hp hrest ih =>
    have hwords' : ∀ v ∈ words, stop ∉ v ∧ v ≠ [] :=
      fun v hv => hwords v (List.mem_cons_of_mem w hv)
    rcases hp with rfl | rfl
    · exfalso
      have hopen : pieces.flatten = stop :: (terminated stop words).flatten := by
        simpa [terminated] using h
      cases hrest with
      | nil => simp at hopen
      | @cons v q _ _ hq _ =>
        obtain ⟨hv, hne⟩ := hwords' v List.mem_cons_self
        obtain ⟨x, v, rfl⟩ := List.exists_cons_of_ne_nil hne
        have hx : x = stop := by
          rcases hq with rfl | rfl
          · exact (List.cons.inj (by simpa using hopen)).1
          · exact (List.cons.inj (by simpa using hopen)).1
        exact hv (hx ▸ List.mem_cons_self)
    · have htail : pieces.flatten = (terminated stop words).flatten := by
        simpa [terminated] using h
      rw [ih hwords' htail]
      rfl

end Lines
