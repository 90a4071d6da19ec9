import Mathlib.Logic.Function.Basic
import Mathlib.Data.List.Nodup
import WeiRtcNative.Lib.Machine

/-!
# Owners of session descriptions

Description objects and `SessionDescription` wrappers, both numbered as they are made. A setter takes
the object out of the wrapper's `unique_ptr` without telling it, and the underlying peer connection
owns it from then on, also when it fails; it may free it at any time. The destructor of the wrapper
lets its pointer go and frees nothing. `OnSuccess` is given a description of its own.
-/

namespace WeiRtcNative.Signaling.DescriptionOwners

open Machine
set_option autoImplicit false

inductive Owner where
  | wrapper
  | observer
  | peerConnection
  | freed
  deriving DecidableEq, Repr

inductive Event where
  | created (k : Nat) (owner : Owner)
  | passed (k : Nat)
  | read (k : Nat)
  | freed (k : Nat)
  | ended
  deriving DecidableEq, Repr

/-- A wrapper is there or not, and has an object unless its text could not be parsed. `owned` are the
pointers that the peer connection will free. -/
structure System where
  wrappers : Nat → Option (Option Nat)
  made : Nat
  created : Nat
  owned : List Nat
  ended : Bool

def init : System := ⟨fun _ => none, 0, 0, [], false⟩

def construct (s : System) (parses : Bool) : System × List Event :=
  if parses then
    ({s with
        wrappers := Function.update s.wrappers s.made (some (some s.created))
        made := s.made + 1
        created := s.created + 1}, [.created s.created .wrapper])
  else
    ({s with wrappers := Function.update s.wrappers s.made (some none), made := s.made + 1}, [])

/-- The destructor, which calls `release` on the pointer. -/
def destruct (s : System) (w : Nat) : System × List Event :=
  ({s with wrappers := Function.update s.wrappers w none}, [])

/-- `PeerConnection::SetRemoteDescription` of a wrapper. -/
def setRemoteDescription (s : System) (w : Nat) : System × List Event :=
  match s.wrappers w with
  | some (some k) => ({s with owned := s.owned ++ [k]}, [.passed k])
  | _ => (s, [])

/-- `PeerConnection::SetLocalDescription`, whose body is the one of the other setter. -/
def setLocalDescription (s : System) (w : Nat) : System × List Event := setRemoteDescription s w

/-- The description is passed on and then read twice; `sdpObj` gets its text and is destroyed. -/
def onSuccess (s : System) (parses : Bool) : System × List Event :=
  let desc := s.created
  let (t, events) :=
    construct {s with created := s.created + 1, owned := s.owned ++ [desc]} parses
  ((destruct t s.made).1,
    [.created desc .observer, .passed desc, .read desc, .read desc] ++ events)

def free (s : System) (k : Nat) : System × List Event :=
  if k ∈ s.owned then ({s with owned := s.owned.erase k}, [.freed k]) else (s, [])

/-- The remaining wrappers and the peer connection are destroyed. -/
def finish (s : System) : System × List Event :=
  ({s with wrappers := fun _ => none, owned := [], ended := true},
    s.owned.map .freed ++ [.ended])

inductive Action where
  | construct (parses : Bool)
  | setRemoteDescription (w : Nat)
  | setLocalDescription (w : Nat)
  | destruct (w : Nat)
  | onSuccess (parses : Bool)
  | free (k : Nat)
  | finish
  deriving DecidableEq, Repr

def step (s : System) (a : Action) : System × List Event :=
  if s.ended then (s, [])
  else
    match a with
    | .construct parses => construct s parses
    | .setRemoteDescription w => setRemoteDescription s w
    | .setLocalDescription w => setLocalDescription s w
    | .destruct w => destruct s w
    | .onSuccess parses => onSuccess s parses
    | .free k => free s k
    | .finish => finish s

def Event.object : Event → Option Nat
  | .created k _ | .passed k | .read k | .freed k => some k
  | .ended => none

def about (k : Nat) (log : List Event) : List Event := log.filter fun e => e.object = some k

def Event.owner (was : Option Owner) : Event → Option Owner
  | .created _ owner => some owner
  | .passed _ => some .peerConnection
  | .freed _ => some .freed
  | .read _ | .ended => was

/-- The owner of an object, by the last event that says something about it. -/
def ownerOf (k : Nat) (log : List Event) : Option Owner := (about k log).foldl Event.owner none

/-- The object is still with the wrapper or the observer that passes it on or reads it. -/
def Held (k : Nat) (log : List Event) : Prop :=
  ownerOf k log = some .wrapper ∨ ownerOf k log = some .observer

/-- An object is passed on and read by the one owner it has, freed by the peer connection that owns
it, and in the end each object was freed once. -/
def SoundAt (log : List Event) : Event → Prop
  | .created k _ => ownerOf k log = none
  | .passed k | .read k => Held k log
  | .freed k => ownerOf k log = some .peerConnection
  | .ended => ∀ k owner, .created k owner ∈ log → log.count (.freed k) = 1

/-- No description is passed a second time, none comes through `OnSuccess`, and in the end each was
passed. -/
def Admits (log : List Event) (s : System) (a : Action) : Prop :=
  s.ended = false →
    match a with
    | .setRemoteDescription w | .setLocalDescription w =>
      ∀ k, s.wrappers w = some (some k) → .passed k ∉ log
    | .onSuccess _ => False
    | .finish => ∀ k owner, .created k owner ∈ log → .passed k ∈ log
    | _ => True

section Objects

@[simp] theorem about_append (k : Nat) (log events : List Event) :
    about k (log ++ events) = about k log ++ about k events := by
  simp [about]

theorem about_one_self {k : Nat} {e : Event} (h : e.object = some k) : about k [e] = [e] := by
  simp [about, h]

theorem about_one_other {k : Nat} {e : Event} (h : e.object ≠ some k) : about k [e] = [] := by
  simp [about, h]

theorem mem_about {k : Nat} {e : Event} {log : List Event} (h : e.object = some k) :
    e ∈ about k log ↔ e ∈ log := by
  simp [about, h]

theorem count_about (k : Nat) (log : List Event) :
    (about k log).count (.freed k) = log.count (.freed k) := by
  simp [about, List.count_filter, Event.object]

/-- How far an object has come: with its wrapper, with the peer connection, or freed. -/
inductive Life (k : Nat) : Bool → List Event → Prop where
  | kept : Life k false [.created k .wrapper]
  | given : Life k true [.created k .wrapper, .passed k]
  | gone : Life k false [.created k .wrapper, .passed k, .freed k]

variable {k : Nat} {owned : Bool} {log : List Event}

theorem Life.passed_iff (h : Life k owned (about k log)) : .passed k ∈ log ↔ ¬ Held k log := by
  rw [← mem_about (k := k) (e := .passed k) rfl]
  unfold Held ownerOf
  generalize about k log = l at h
  cases h <;> simp [Event.owner]

theorem Life.owner (h : Life k true (about k log)) : ownerOf k log = some .peerConnection := by
  unfold ownerOf
  generalize about k log = l at h
  cases h
  rfl

/-- An object with the peer connection is freed. -/
theorem Life.freed (h : Life k true (about k log)) : Life k false (about k (log ++ [.freed k])) := by
  rw [about_append, about_one_self (e := .freed k) rfl]
  generalize about k log = l at h
  cases h
  exact .gone

theorem Life.count_freed (h : Life k false (about k log)) :
    log.count (.freed k) = 1 ↔ .passed k ∈ log := by
  rw [← count_about, ← mem_about (k := k) (e := .passed k) rfl]
  generalize about k log = l at h
  cases h <;> simp

theorem life_append_other {e : Event} (he : e.object ≠ some k) (h : Life k owned (about k log)) :
    Life k owned (about k (log ++ [e])) := by
  rw [about_append, about_one_other he, List.append_nil]
  exact h

end Objects

/-- Every object has come as far as the peer connection's pointers say. -/
structure Inv (log : List Event) (s : System) : Prop where
  fresh : ∀ k, s.created ≤ k → about k log = []
  lives : ∀ k, k < s.created → Life k (decide (k ∈ s.owned)) (about k log)
  owned : ∀ k ∈ s.owned, k < s.created
  nodup : s.owned.Nodup
  wrappers : ∀ w k, s.wrappers w = some (some k) → k < s.created

theorem init_inv : Inv [] init :=
  ⟨fun _ _ => rfl, by simp [init], by simp [init], List.nodup_nil, by simp [init]⟩

section Steps
variable {log : List Event} {s t : System}

theorem Inv.created_lt (h : Inv log s) {k : Nat} {owner : Owner} (hk : .created k owner ∈ log) :
    k < s.created := by
  by_contra hge
  have hmem := (mem_about (k := k) (e := .created k owner) rfl).mpr hk
  rw [h.fresh k (Nat.le_of_not_lt hge)] at hmem
  cases hmem

theorem Inv.silent (h : Inv log s) (hcreated : t.created = s.created) (howned : t.owned = s.owned)
    (hwrappers : ∀ w k, t.wrappers w = some (some k) → k < s.created) : Inv (log ++ []) t := by
  rw [List.append_nil]
  refine ⟨?_, ?_, ?_, ?_, ?_⟩
  · rw [hcreated]
    exact h.fresh
  · rw [hcreated, howned]
    exact h.lives
  · rw [hcreated, howned]
    exact h.owned
  · rw [howned]
    exact h.nodup
  · rw [hcreated]
    exact hwrappers

/-- An event about an object leaves the others alone. -/
theorem Inv.others (h : Inv log s) {e : Event} {k j : Nat} (he : e.object = some k) (hj : j ≠ k)
    (hlt : j < s.created) : Life j (decide (j ∈ s.owned)) (about j (log ++ [e])) := by
  refine life_append_other ?_ (h.lives j hlt)
  rw [he]
  intro hsame
  exact hj (Option.some.inj hsame).symm

theorem wrappers_update {bound w : Nat} {new : Option (Option Nat)}
    (h : ∀ w k, s.wrappers w = some (some k) → k < bound)
    (hnew : ∀ k, new = some (some k) → k < bound) :
    ∀ v k, Function.update s.wrappers w new v = some (some k) → k < bound := by
  intro v k hk
  by_cases hv : v = w
  · subst hv
    rw [Function.update_self] at hk
    exact hnew k hk
  · rw [Function.update_of_ne hv] at hk
    exact h v k hk

theorem construct_sound (h : Inv log s) (parses : Bool) :
    Justified (fun pre => SoundAt (log ++ pre)) (construct s parses).2 ∧
      Inv (log ++ (construct s parses).2) (construct s parses).1 := by
  cases parses with
  | false => exact ⟨by simp [construct], h.silent rfl rfl (wrappers_update h.wrappers (by simp))⟩
  | true =>
    have hnone := h.fresh s.created (Nat.le_refl _)
    have hnew : s.created ∉ s.owned := fun hmem => Nat.lt_irrefl _ (h.owned _ hmem)
    have hgrows : ∀ w k, s.wrappers w = some (some k) → k < s.created + 1 := by
      intro w k hk
      exact Nat.lt_succ_of_lt (h.wrappers w k hk)
    refine ⟨by simp [construct, SoundAt, ownerOf, hnone], ?_, ?_, ?_, h.nodup, ?_⟩
    · intro k hk
      have hother : (Event.created s.created .wrapper).object ≠ some k := by
        intro hsame
        have := Option.some.inj hsame
        simp only [construct, if_true] at hk
        omega
      simp only [construct, if_true, about_append, about_one_other hother, List.append_nil]
      exact h.fresh k (Nat.le_of_succ_le hk)
    · intro k hk
      by_cases hsame : k = s.created
      · subst hsame
        simp only [construct, if_true, about_append, hnone, List.nil_append,
          about_one_self (e := .created s.created .wrapper) rfl, decide_eq_false hnew]
        exact .kept
      · exact h.others rfl hsame (Nat.lt_of_le_of_ne (Nat.lt_succ_iff.mp hk) hsame)
    · intro k hk
      exact Nat.lt_succ_of_lt (h.owned k hk)
    · exact wrappers_update hgrows (by simp [construct])

theorem set_sound_iff (h : Inv log s) (w : Nat) :
    Justified (fun pre => SoundAt (log ++ pre)) (setRemoteDescription s w).2 ↔
      ∀ k, s.wrappers w = some (some k) → .passed k ∉ log := by
  unfold setRemoteDescription
  split
  · rename_i k hk
    have hlife := h.lives k (h.wrappers w k hk)
    have hpassed := hlife.passed_iff
    constructor
    · intro hsound j hj
      rw [hk] at hj
      obtain rfl := Option.some.inj (Option.some.inj hj)
      rw [hpassed, not_not]
      simpa [SoundAt] using hsound
    · intro hnot
      have hheld := mt hpassed.mpr (hnot k hk)
      rw [not_not] at hheld
      simpa [SoundAt] using hheld
  · rename_i hnone
    refine iff_of_true (by simp) ?_
    intro k hk
    exact absurd hk (hnone k)

theorem set_inv (h : Inv log s) {w : Nat}
    (ha : ∀ k, s.wrappers w = some (some k) → .passed k ∉ log) :
    Inv (log ++ (setRemoteDescription s w).2) (setRemoteDescription s w).1 := by
  unfold setRemoteDescription
  split
  · rename_i k hk
    have hlt := h.wrappers w k hk
    have hlife := h.lives k hlt
    have hmem : .passed k ∉ about k log := mt (mem_about rfl).mp (ha k hk)
    have hnew : k ∉ s.owned := by
      intro howned
      rw [decide_eq_true howned] at hlife
      generalize about k log = l at hlife hmem
      cases hlife
      simp at hmem
    refine ⟨?_, ?_, ?_, ?_, h.wrappers⟩
    · intro j hj
      have hother : (Event.passed k).object ≠ some j := by
        intro hsame
        have := Option.some.inj hsame
        dsimp only at hj
        omega
      rw [about_append, about_one_other hother, List.append_nil]
      exact h.fresh j hj
    · intro j hj
      by_cases hsame : j = k
      · subst hsame
        rw [about_append, about_one_self (e := .passed j) rfl, decide_eq_true (by simp)]
        rw [decide_eq_false hnew] at hlife
        generalize about j log = l at hlife hmem
        cases hlife with
        | kept => exact .given
        | gone => simp at hmem
      · have hlife' := h.others (e := .passed k) rfl hsame hj
        simpa [List.mem_append, hsame] using hlife'
    · intro j hj
      rcases List.mem_append.mp hj with hj | hj
      · exact h.owned j hj
      · obtain rfl := List.mem_singleton.mp hj
        exact hlt
    · exact List.nodup_append.mpr ⟨h.nodup, List.nodup_singleton k, by
        rintro a ha b hb rfl
        exact hnew (List.mem_singleton.mp hb ▸ ha)⟩
  · exact h.silent rfl rfl h.wrappers

/-- `OnSuccess` reads the description that it has passed on. -/
theorem onSuccess_unsound (log : List Event) (s : System) (parses : Bool) :
    ¬ Justified (fun pre => SoundAt (log ++ pre)) (onSuccess s parses).2 := by
  intro hsound
  have hread := hsound [.created s.created .observer, .passed s.created] (.read s.created)
    (.read s.created :: (construct {s with
      created := s.created + 1, owned := s.owned ++ [s.created]} parses).2) rfl
  simp [SoundAt, Held, ownerOf, about, Event.object, Event.owner] at hread

theorem free_sound (h : Inv log s) (k : Nat) :
    Justified (fun pre => SoundAt (log ++ pre)) (free s k).2 ∧
      Inv (log ++ (free s k).2) (free s k).1 := by
  unfold free
  split
  · rename_i hk
    have hlt := h.owned k hk
    have hlife := h.lives k hlt
    rw [decide_eq_true hk] at hlife
    refine ⟨by simpa [SoundAt] using hlife.owner, ?_, ?_, ?_, h.nodup.erase k, h.wrappers⟩
    · intro j hj
      have hother : (Event.freed k).object ≠ some j := by
        intro hsame
        have := Option.some.inj hsame
        dsimp only at hj
        omega
      rw [about_append, about_one_other hother, List.append_nil]
      exact h.fresh j hj
    · intro j hj
      by_cases hsame : j = k
      · subst hsame
        rw [decide_eq_false (by simp [h.nodup.mem_erase_iff])]
        exact hlife.freed
      · have hlife' := h.others (e := .freed k) rfl hsame hj
        simpa [h.nodup.mem_erase_iff, hsame] using hlife'
    · intro j hj
      exact h.owned j (List.mem_of_mem_erase hj)
  · exact ⟨by simp, h.silent rfl rfl h.wrappers⟩

/-- The peer connection frees different objects one after the other. -/
theorem frees_sound {ks : List Nat} (hnodup : ks.Nodup)
    (hlives : ∀ k ∈ ks, Life k true (about k log)) :
    Justified (fun pre => SoundAt (log ++ pre)) (ks.map .freed) ∧
      ∀ k ∈ ks, Life k false (about k (log ++ ks.map .freed)) := by
  induction ks generalizing log with
  | nil => simp
  | cons k ks ih =>
    obtain ⟨hk, hks⟩ := List.nodup_cons.mp hnodup
    have hrest : ∀ j ∈ ks, Life j true (about j (log ++ [.freed k])) := by
      intro j hj
      refine life_append_other ?_ (hlives j (List.mem_cons_of_mem k hj))
      intro hsame
      exact hk (Option.some.inj hsame ▸ hj)
    obtain ⟨hsound, hfreed⟩ := ih hks hrest
    have hfirst := hlives k List.mem_cons_self
    refine ⟨?_, ?_⟩
    · rw [List.map_cons, justified_cons]
      refine ⟨by simpa [SoundAt] using hfirst.owner, ?_⟩
      simpa [List.append_assoc] using hsound
    · intro j hj
      rw [List.map_cons, List.append_cons]
      rcases List.mem_cons.mp hj with rfl | hj
      · have hgone := hfirst.freed
        rw [about_append]
        have hnone : about j (ks.map .freed) = [] := by
          refine List.filter_eq_nil_iff.mpr ?_
          intro e he
          obtain ⟨i, hi, rfl⟩ := List.mem_map.mp he
          simp only [Event.object, Option.some.injEq, decide_eq_true_eq]
          rintro rfl
          exact hk hi
        rw [hnone, List.append_nil]
        exact hgone
      · exact hfreed j hj

theorem finish_sound_iff (h : Inv log s) :
    Justified (fun pre => SoundAt (log ++ pre)) (finish s).2 ↔
      ∀ k owner, .created k owner ∈ log → .passed k ∈ log := by
  have hgiven : ∀ k ∈ s.owned, Life k true (about k log) := by
    intro k hk
    have hlife := h.lives k (h.owned k hk)
    rw [decide_eq_true hk] at hlife
    exact hlife
  obtain ⟨hsound, hfreed⟩ := frees_sound h.nodup hgiven
  have hall : ∀ k, k < s.created → Life k false (about k (log ++ s.owned.map .freed)) := by
    intro k hk
    by_cases howned : k ∈ s.owned
    · exact hfreed k howned
    · have hnone : about k (s.owned.map .freed) = [] := by
        refine List.filter_eq_nil_iff.mpr ?_
        intro e he
        obtain ⟨i, hi, rfl⟩ := List.mem_map.mp he
        simp only [Event.object, Option.some.injEq, decide_eq_true_eq]
        rintro rfl
        exact howned hi
      have hlife := h.lives k hk
      rw [decide_eq_false howned] at hlife
      rw [about_append, hnone, List.append_nil]
      exact hlife
  have hpassed : ∀ k, .passed k ∈ log ++ s.owned.map .freed ↔ .passed k ∈ log := by
    intro k
    simp
  have hcreated : ∀ k owner, .created k owner ∈ log ++ s.owned.map .freed ↔
      .created k owner ∈ log := by
    intro k owner
    simp
  have hended : SoundAt (log ++ s.owned.map .freed) .ended ↔
      ∀ k owner, .created k owner ∈ log → .passed k ∈ log := by
    refine forall_congr' fun k => forall_congr' fun owner => ?_
    rw [hcreated]
    refine imp_congr_right fun hmem => ?_
    rw [(hall k (h.created_lt hmem)).count_freed, hpassed]
  simp only [finish]
  rw [justified_append, ← hended]
  constructor
  · rintro ⟨-, hlast⟩
    simpa using hlast
  · intro hlast
    exact ⟨hsound, by simpa using hlast⟩

theorem step_sound_iff (h : s.ended = false → Inv log s) (a : Action) :
    Justified (fun pre => SoundAt (log ++ pre)) (step s a).2 ↔ Admits log s a := by
  unfold step Admits
  cases hended : s.ended with
  | true => simp
  | false =>
    have hinv := h hended
    simp only [Bool.false_eq_true, if_false, true_implies]
    cases a with
    | construct parses => exact iff_of_true (construct_sound hinv parses).1 trivial
    | setRemoteDescription w => exact set_sound_iff hinv w
    | setLocalDescription w => exact set_sound_iff hinv w
    | destruct w => exact iff_of_true (by simp [destruct]) trivial
    | onSuccess parses => exact iff_of_false (onSuccess_unsound log s parses) id
    | free k => exact iff_of_true (free_sound hinv k).1 trivial
    | finish => exact finish_sound_iff hinv

theorem step_inv (h : s.ended = false → Inv log s) {a : Action} (ha : Admits log s a) :
    (step s a).1.ended = false → Inv (log ++ (step s a).2) (step s a).1 := by
  unfold step
  unfold Admits at ha
  cases hended : s.ended with
  | true => simp [hended]
  | false =>
    have hinv := h hended
    replace ha := ha hended
    simp only [Bool.false_eq_true, if_false]
    cases a with
    | construct parses => exact fun _ => (construct_sound hinv parses).2
    | setRemoteDescription w => exact fun _ => set_inv hinv ha
    | setLocalDescription w => exact fun _ => set_inv hinv ha
    | destruct w =>
      exact fun _ => hinv.silent rfl rfl (wrappers_update hinv.wrappers (by simp))
    | onSuccess parses => exact absurd ha id
    | free k => exact fun _ => (free_sound hinv k).2
    | finish =>
      intro hup
      cases hup

end Steps

/-- In a run the descriptions have one owner at a time and are not read after they were passed on, and
in the end each was freed once, just when none comes through `OnSuccess`, none is passed twice and
each is passed before the end. -/
theorem one_owner_iff (actions : List Action) :
    Justified SoundAt (run step init actions).2 ↔ Along step Admits [] init actions := by
  apply justified_run_iff step (fun log s => s.ended = false → Inv log s)
  · intro log s a h
    exact step_sound_iff h a
  · intro log s a h ha
    exact step_inv h ha
  · intro _
    exact init_inv

section Failures

/-- A wrapper that is never passed on, one that is passed twice, and a callback. -/
theorem owners_broken :
    ¬ Justified SoundAt (run step init [.construct true, .destruct 0, .finish]).2 ∧
      ¬ Justified SoundAt (run step init
        [.construct true, .setRemoteDescription 0, .setRemoteDescription 0]).2 ∧
      ¬ Justified SoundAt (run step init [.onSuccess true]).2 := by
  refine ⟨?_, ?_, ?_⟩
  · intro h
    have hfreed := h [.created 0 .wrapper] .ended [] rfl 0 .wrapper (by simp)
    revert hfreed
    decide
  · intro h
    have hheld := h [.created 0 .wrapper, .passed 0] (.passed 0) [] rfl
    revert hheld
    exact show ¬ (_ ∨ _) by decide
  · intro h
    have hheld := h [.created 0 .observer, .passed 0] (.read 0) [.read 0, .created 1 .wrapper] rfl
    revert hheld
    exact show ¬ (_ ∨ _) by decide

end Failures

end WeiRtcNative.Signaling.DescriptionOwners
