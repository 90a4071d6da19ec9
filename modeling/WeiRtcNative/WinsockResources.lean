import Mathlib.Logic.Function.Basic
import WeiRtcNative.Lib.Lifetime

/-!
# Winsock resources of DirectTcpServer

`Start` call by call, with the clean-up of each of its exits, interleaved with `Send` calls on other
threads. A `Send` whose first `send` fails closes `_clientSocket` and gives back a reference to
Winsock that it never took, while `Start` still owns both. A `send` on `INVALID_SOCKET` fails.
-/

namespace WeiRtcNative.WinsockResources

open Machine Lifetime
set_option autoImplicit false

/-- The next Winsock call of `Start`; `idle` is before it and after it has returned. -/
inductive Phase where
  | idle
  | resolving
  | creating
  | binding (listenSocket : Nat)
  | listening (listenSocket : Nat)
  | accepting (listenSocket : Nat)
  | closingListener (listenSocket : Nat) (accepted : Bool)
  | receiving
  | shuttingDown
  | closingClient
  | cleaning
  deriving DecidableEq, Repr

/-- The next Winsock call of a `Send`. -/
inductive SendPhase where
  | idle
  | newline
  | closing
  | cleaning
  deriving DecidableEq, Repr

/-- Sockets are numbered as they are made; `INVALID_SOCKET` is `none`. -/
structure System where
  phase : Phase
  clientSocket : Option Nat
  created : Nat
  sends : Nat → SendPhase

/-- A call of `WSACleanup` is made by `Start` or by a `Send`. -/
inductive Event where
  | wsaStartup
  | wsaCleanup (send : Option Nat)
  | socket (event : Lifetime.Event Nat)
  | sendFailed (send : Nat)
  | startReturned
  deriving DecidableEq, Repr

/-- How a call went; `closed` is the zero of `recv`. -/
inductive Answer where
  | success
  | closed
  | error
  deriving DecidableEq, Repr

inductive Action where
  | start (answer : Answer)
  | send (i : Nat) (accepted : Bool)
  deriving DecidableEq, Repr

def init : System := ⟨.idle, none, 0, fun _ => .idle⟩

def useClient (s : System) : List Event := s.clientSocket.toList.map fun c => .socket (.use c)

def freeClient (s : System) : List Event := s.clientSocket.toList.map fun c => .socket (.free c)

def start (s : System) (answer : Answer) : System × List Event :=
  match s.phase with
  | .idle =>
    if answer = .error then (s, [.startReturned]) else ({s with phase := .resolving}, [.wsaStartup])
  | .resolving => ({s with phase := if answer = .error then .cleaning else .creating}, [])
  | .creating =>
    if answer = .error then ({s with phase := .cleaning}, [])
    else ({s with phase := .binding s.created, created := s.created + 1},
      [.socket (.acquire s.created)])
  | .binding l =>
    ({s with phase := if answer = .error then .closingListener l false else .listening l},
      [.socket (.use l)])
  | .listening l =>
    ({s with phase := if answer = .error then .closingListener l false else .accepting l},
      [.socket (.use l)])
  | .accepting l =>
    if answer = .error then
      ({s with phase := .closingListener l false, clientSocket := none}, [.socket (.use l)])
    else
      ({s with
          phase := .closingListener l true
          clientSocket := some s.created
          created := s.created + 1}, [.socket (.use l), .socket (.acquire s.created)])
  | .closingListener l accepted =>
    ({s with phase := if accepted then .receiving else .cleaning}, [.socket (.free l)])
  | .receiving =>
    ({s with phase := match answer with
      | .success => .receiving
      | .closed => .shuttingDown
      | .error => .closingClient}, useClient s)
  | .shuttingDown => ({s with phase := .closingClient}, useClient s)
  | .closingClient => ({s with phase := .cleaning}, freeClient s)
  | .cleaning => ({s with phase := .idle}, [.wsaCleanup none, .startReturned])

def System.setSend (s : System) (i : Nat) (phase : SendPhase) : System :=
  {s with sends := Function.update s.sends i phase}

/-- The next call of the `Send` number `i`. -/
def send (s : System) (i : Nat) (accepted : Bool) : System × List Event :=
  match s.sends i with
  | .idle =>
    if accepted && s.clientSocket.isSome then (s.setSend i .newline, useClient s)
    else (s.setSend i .closing, useClient s ++ [.sendFailed i])
  | .newline => (s.setSend i .idle, useClient s)
  | .closing => (s.setSend i .cleaning, freeClient s)
  | .cleaning => (s.setSend i .idle, [.wsaCleanup (some i)])

def step (s : System) : Action → System × List Event
  | .start answer => start s answer
  | .send i accepted => send s i accepted

def Event.isCleanup : Event → Bool
  | .wsaCleanup _ => true
  | _ => false

def startups (log : List Event) : Nat := log.count .wsaStartup

def cleanups (log : List Event) : Nat := log.countP Event.isCleanup

def Event.object : Event → Option (Lifetime.Event Nat)
  | .socket event => some event
  | _ => none

abbrev socketLog (log : List Event) : List (Lifetime.Event Nat) := objects Event.object log

/-- A clean-up has a start-up to undo, sockets are used and closed while they are open, and when
`Start` returns all is given back. -/
def SoundAt (log : List Event) : Event → Prop
  | .wsaCleanup _ => cleanups log < startups log
  | .socket event => Proper (socketLog log) event
  | .startReturned => cleanups log = startups log ∧ ∀ k, live k (socketLog log) = false
  | .wsaStartup | .sendFailed _ => True

/-- A `Send` comes while the client socket is open, its first `send` succeeds, and the socket is
still open when it sends the newline. -/
def Admits (log : List Event) (s : System) : Action → Prop
  | .start _ => True
  | .send i accepted =>
    match s.sends i with
    | .idle => accepted = true ∧ ∃ c, s.clientSocket = some c ∧ live c (socketLog log) = true
    | .newline => ∀ c, s.clientSocket = some c → live c (socketLog log) = true
    | _ => True

/-- `Start` and all the `Send` calls have returned. -/
def Finished (s : System) : Prop := s.phase = .idle ∧ ∀ i, s.sends i = .idle

section Books

/-- What a sound log says: the references to Winsock that are held, and the open sockets. -/
structure Books (log : List Event) (held : Nat) (opens : List Nat) (created : Nat) : Prop where
  sound : Justified SoundAt log
  balance : startups log = cleanups log + held
  sockets : ∀ k, live k (socketLog log) = true ↔ k ∈ opens
  fresh : ∀ k ∈ opens, k < created
  nodup : opens.Nodup

variable {log : List Event} {held created : Nat} {opens : List Nat}

theorem books_nil : Books [] 0 [] 0 := ⟨justified_nil, rfl, by simp, by simp, List.nodup_nil⟩

theorem Books.append {e : Event} (h : Books log held opens created) (he : SoundAt log e) :
    Justified SoundAt (log ++ [e]) :=
  justified_append.mpr ⟨h.sound, by simpa using he⟩

theorem Books.startup (h : Books log held opens created) :
    Books (log ++ [.wsaStartup]) (held + 1) opens created where
  sound := h.append trivial
  balance := by
    have hbalance := h.balance
    simp [startups, cleanups, Event.isCleanup] at hbalance ⊢
    omega
  sockets := by simpa [objects_one_none (f := Event.object) (e := .wsaStartup) rfl] using h.sockets
  fresh := h.fresh
  nodup := h.nodup

theorem Books.cleanup (h : Books log (held + 1) opens created) (sender : Option Nat) :
    Books (log ++ [.wsaCleanup sender]) held opens created where
  sound := h.append (by have hbalance := h.balance; simp only [SoundAt]; omega)
  balance := by
    have hbalance := h.balance
    simp [startups, cleanups, Event.isCleanup] at hbalance ⊢
    omega
  sockets := by
    simpa [objects_one_none (f := Event.object) (e := .wsaCleanup sender) rfl] using h.sockets
  fresh := h.fresh
  nodup := h.nodup

theorem Books.returned (h : Books log 0 [] created) : Books (log ++ [.startReturned]) 0 [] created where
  sound := by
    refine h.append ⟨by simpa using h.balance.symm, ?_⟩
    intro k
    have hk := (h.sockets k).mp
    simpa using hk
  balance := by simpa [startups, cleanups, Event.isCleanup] using h.balance
  sockets := by
    simpa [objects_one_none (f := Event.object) (e := .startReturned) rfl] using h.sockets
  fresh := h.fresh
  nodup := h.nodup

theorem socketLog_socket (log : List Event) (e : Lifetime.Event Nat) :
    socketLog (log ++ [.socket e]) = socketLog log ++ [e] := by
  simp [objects_one_some (f := Event.object) (e := .socket e) rfl]

theorem Books.use (h : Books log held opens created) {k : Nat} (hk : k ∈ opens) :
    Books (log ++ [.socket (.use k)]) held opens created where
  sound := h.append ((h.sockets k).mpr hk)
  balance := by simpa [startups, cleanups, Event.isCleanup] using h.balance
  sockets := by
    intro j
    rw [socketLog_socket, live_append_one]
    exact h.sockets j
  fresh := h.fresh
  nodup := h.nodup

theorem Books.acquire (h : Books log held opens created) :
    Books (log ++ [.socket (.acquire created)]) held (created :: opens) (created + 1) := by
  have hnew : created ∉ opens := fun hmem => Nat.lt_irrefl _ (h.fresh created hmem)
  refine ⟨?_, ?_, ?_, ?_, List.nodup_cons.mpr ⟨hnew, h.nodup⟩⟩
  · have hdead := mt (h.sockets created).mp hnew
    exact h.append (by simpa [SoundAt, Proper] using hdead)
  · simpa [startups, cleanups, Event.isCleanup] using h.balance
  · intro k
    rw [socketLog_socket, live_append_one, List.mem_cons, ← h.sockets k]
    simp only [Lifetime.Event.live, Bool.or_eq_true, decide_eq_true_eq]
    rw [or_comm, eq_comm (a := created)]
  · intro k hk
    rcases List.mem_cons.mp hk with rfl | hk
    · exact Nat.lt_succ_self k
    · exact Nat.lt_succ_of_lt (h.fresh k hk)

theorem Books.free (h : Books log held opens created) {k : Nat} (hk : k ∈ opens) :
    Books (log ++ [.socket (.free k)]) held (opens.erase k) created := by
  refine ⟨h.append ((h.sockets k).mpr hk), ?_, ?_, ?_, h.nodup.erase k⟩
  · simpa [startups, cleanups, Event.isCleanup] using h.balance
  · intro j
    rw [socketLog_socket, live_append_one, h.nodup.mem_erase_iff, ← h.sockets j]
    simp only [Lifetime.Event.live, Bool.and_eq_true, decide_eq_true_eq]
    rw [and_comm, ne_comm]
  · intro j hj
    exact h.fresh j (List.mem_of_mem_erase hj)

end Books

section Sufficient
variable {log : List Event} {s : System}

/-- The references to Winsock that `Start` holds. -/
def Phase.held : Phase → Nat
  | .idle => 0
  | _ => 1

/-- The sockets that are open while `Start` is at its phase. -/
def System.opens (s : System) : List Nat :=
  match s.phase with
  | .idle | .resolving | .creating | .cleaning => []
  | .binding l | .listening l | .accepting l | .closingListener l false => [l]
  | .closingListener l true => s.clientSocket.toList ++ [l]
  | .receiving | .shuttingDown | .closingClient => s.clientSocket.toList

structure Inv (log : List Event) (s : System) : Prop where
  books : Books log s.phase.held s.opens s.created
  sends : ∀ i, s.sends i = .idle ∨ s.sends i = .newline

theorem init_inv : Inv [] init := ⟨books_nil, fun _ => .inl rfl⟩

/-- The events of one socket call on `_clientSocket`. -/
theorem Books.useClient {held created : Nat} {opens : List Nat} (h : Books log held opens created)
    (hopen : ∀ c, s.clientSocket = some c → c ∈ opens) :
    Books (log ++ useClient s) held opens created := by
  unfold WinsockResources.useClient
  cases hc : s.clientSocket with
  | none => simpa using h
  | some c => exact h.use (hopen c hc)

theorem Books.freeClient {held created : Nat} (h : Books log held s.clientSocket.toList created) :
    Books (log ++ freeClient s) held [] created := by
  unfold WinsockResources.freeClient
  cases hc : s.clientSocket with
  | none => simpa [hc] using h
  | some c =>
    rw [hc] at h
    simpa using h.free (k := c) (by simp)

theorem start_books (h : Inv log s) (answer : Answer) :
    Books (log ++ (start s answer).2) (start s answer).1.phase.held (start s answer).1.opens
      (start s answer).1.created := by
  have hbooks := h.books
  cases hphase : s.phase with
  | idle =>
    simp only [System.opens, hphase, Phase.held] at hbooks
    simp only [start, hphase]
    split
    · simpa [System.opens, hphase, Phase.held] using hbooks.returned
    · exact hbooks.startup
  | resolving =>
    simp only [System.opens, hphase, Phase.held] at hbooks
    simp only [start, hphase, List.append_nil]
    split <;> exact hbooks
  | creating =>
    simp only [System.opens, hphase, Phase.held] at hbooks
    simp only [start, hphase]
    split
    · simpa [System.opens, Phase.held] using hbooks
    · exact hbooks.acquire
  | binding l =>
    simp only [System.opens, hphase, Phase.held] at hbooks
    simp only [start, hphase]
    split <;> exact hbooks.use (by simp)
  | listening l =>
    simp only [System.opens, hphase, Phase.held] at hbooks
    simp only [start, hphase]
    split <;> exact hbooks.use (by simp)
  | accepting l =>
    simp only [System.opens, hphase, Phase.held] at hbooks
    simp only [start, hphase]
    have hused := hbooks.use (k := l) (by simp)
    split
    · exact hused
    · have hmade := hused.acquire
      rw [List.append_assoc] at hmade
      exact hmade
  | closingListener l accepted =>
    cases accepted with
    | false =>
      simp only [System.opens, hphase, Phase.held] at hbooks
      simp only [start, hphase]
      simpa [System.opens, Phase.held] using hbooks.free (k := l) (by simp)
    | true =>
      simp only [System.opens, hphase, Phase.held] at hbooks
      have hfreed := hbooks.free (k := l) (by simp)
      have hnew : l ∉ s.clientSocket.toList := by
        intro hmem
        exact (List.nodup_append.mp hbooks.nodup).2.2 l hmem l (by simp) rfl
      rw [List.erase_append_right _ hnew] at hfreed
      simp only [start, hphase]
      simpa [System.opens, Phase.held] using hfreed
  | receiving =>
    simp only [System.opens, hphase, Phase.held] at hbooks
    simp only [start, hphase]
    have hused := hbooks.useClient (s := s) (by simp)
    cases answer <;> exact hused
  | shuttingDown =>
    simp only [System.opens, hphase, Phase.held] at hbooks
    simp only [start, hphase]
    exact hbooks.useClient (s := s) (by simp)
  | closingClient =>
    simp only [System.opens, hphase, Phase.held] at hbooks
    simp only [start, hphase]
    exact hbooks.freeClient
  | cleaning =>
    simp only [System.opens, hphase, Phase.held] at hbooks
    have hreturned := (hbooks.cleanup none).returned
    rw [List.append_assoc] at hreturned
    simp only [start, hphase]
    exact hreturned

theorem start_sends (s : System) (answer : Answer) : (start s answer).1.sends = s.sends := by
  unfold start
  repeat' split
  all_goals rfl

theorem setSend_sends {i : Nat} {phase : SendPhase}
    (h : ∀ j, s.sends j = .idle ∨ s.sends j = .newline) (hphase : phase = .idle ∨ phase = .newline) :
    ∀ j, (s.setSend i phase).sends j = .idle ∨ (s.setSend i phase).sends j = .newline := by
  intro j
  by_cases hj : j = i
  · subst hj
    simpa [System.setSend] using hphase
  · simpa [System.setSend, Function.update_of_ne hj] using h j

theorem send_inv (h : Inv log s) {i : Nat} {accepted : Bool}
    (ha : Admits log s (.send i accepted)) :
    Inv (log ++ (send s i accepted).2) (send s i accepted).1 := by
  have hbooks := h.books
  simp only [Admits] at ha
  rcases h.sends i with hidle | hnewline
  · rw [hidle] at ha
    obtain ⟨rfl, c, hc, hlive⟩ := ha
    simp only [send, hidle, hc, Option.isSome_some, Bool.true_and, if_true]
    refine ⟨?_, setSend_sends h.sends (.inr rfl)⟩
    refine hbooks.useClient ?_
    intro c' hc'
    obtain rfl := Option.some.inj (hc.symm.trans hc')
    exact (hbooks.sockets c).mp hlive
  · rw [hnewline] at ha
    simp only [send, hnewline]
    refine ⟨?_, setSend_sends h.sends (.inl rfl)⟩
    refine hbooks.useClient ?_
    intro c hc
    exact (hbooks.sockets c).mp (ha c hc)

theorem step_inv (h : Inv log s) {a : Action} (ha : Admits log s a) :
    Inv (log ++ (step s a).2) (step s a).1 := by
  cases a with
  | start answer =>
    refine ⟨start_books h answer, ?_⟩
    simp only [step, start_sends]
    exact h.sends
  | send i accepted => exact send_inv h ha

end Sufficient

section Necessary

/-- A `Send` whose first `send` failed has not come to its `WSACleanup`. -/
def SendPhase.owes : SendPhase → Nat
  | .closing | .cleaning => 1
  | _ => 0

/-- What is true of every run: `Start` undoes its start-ups itself, and each failed `Send` adds one
clean-up of its own. -/
structure Balance (log : List Event) (s : System) : Prop where
  start : startups log = log.count (.wsaCleanup none) + s.phase.held
  sends : ∀ i, log.count (.sendFailed i) =
    log.count (.wsaCleanup (some i)) + (s.sends i).owes

variable {log : List Event} {s : System}

theorem count_useClient (s : System) {e : Event} (he : ∀ x, e ≠ .socket x) :
    (useClient s).count e = 0 := by
  refine List.count_eq_zero.mpr ?_
  intro hmem
  obtain ⟨c, -, rfl⟩ := List.mem_map.mp hmem
  exact he _ rfl

theorem count_freeClient (s : System) {e : Event} (he : ∀ x, e ≠ .socket x) :
    (freeClient s).count e = 0 := by
  refine List.count_eq_zero.mpr ?_
  intro hmem
  obtain ⟨c, -, rfl⟩ := List.mem_map.mp hmem
  exact he _ rfl

theorem start_balance (h : Balance log s) (answer : Answer) :
    Balance (log ++ (start s answer).2) (start s answer).1 := by
  refine ⟨?_, ?_⟩
  · have hstart := h.start
    unfold start
    cases hphase : s.phase <;> rw [hphase] at hstart <;> dsimp only <;> (repeat' split) <;>
      simp_all [startups, Phase.held, count_useClient, count_freeClient]
  · intro i
    have hsends := h.sends i
    rw [start_sends]
    unfold start
    repeat' split
    all_goals simp_all [count_useClient, count_freeClient]

/-- A step of the `Send` number `i`. -/
theorem Balance.send (h : Balance log s) {i : Nat} {phase : SendPhase} {events : List Event}
    (hstart : events.count .wsaStartup = events.count (.wsaCleanup none))
    (hi : events.count (.sendFailed i) + (s.sends i).owes =
      events.count (.wsaCleanup (some i)) + phase.owes)
    (hothers : ∀ j, j ≠ i →
      events.count (.sendFailed j) = 0 ∧ events.count (.wsaCleanup (some j)) = 0) :
    Balance (log ++ events) (s.setSend i phase) := by
  refine ⟨?_, ?_⟩
  · have hbefore := h.start
    simp only [startups, List.count_append, System.setSend] at hbefore ⊢
    omega
  · intro j
    have hbefore := h.sends j
    rw [List.count_append, List.count_append]
    by_cases hj : j = i
    · subst hj
      simp only [System.setSend, Function.update_self]
      omega
    · obtain ⟨hfailed, hcleaned⟩ := hothers j hj
      simp only [System.setSend, Function.update_of_ne hj]
      omega

theorem send_balance (h : Balance log s) (i : Nat) (accepted : Bool) :
    Balance (log ++ (send s i accepted).2) (send s i accepted).1 := by
  unfold send
  cases hphase : s.sends i with
  | idle =>
    dsimp only
    split
    · refine h.send ?_ ?_ ?_
      · simp [count_useClient]
      · simp [count_useClient, hphase, SendPhase.owes]
      · simp [count_useClient]
    · refine h.send ?_ ?_ ?_
      · simp [count_useClient]
      · simp [count_useClient, hphase, SendPhase.owes]
      · intro j hj
        simp [count_useClient, Ne.symm hj]
  | newline =>
    refine h.send ?_ ?_ ?_
    · simp [count_useClient]
    · simp [count_useClient, hphase, SendPhase.owes]
    · simp [count_useClient]
  | closing =>
    refine h.send ?_ ?_ ?_
    · simp [count_freeClient]
    · simp [count_freeClient, hphase, SendPhase.owes]
    · simp [count_freeClient]
  | cleaning =>
    refine h.send ?_ ?_ ?_
    · simp
    · simp [hphase, SendPhase.owes]
    · intro j hj
      simp [Ne.symm hj]

theorem run_balance (actions : List Action) :
    Balance (run step init actions).2 (run step init actions).1 := by
  refine run_invariant step Balance ?_ ⟨rfl, fun _ => rfl⟩ (along_true step [] init actions)
  intro log s a h _
  cases a with
  | start answer => exact start_balance h answer
  | send i accepted => exact send_balance h i accepted

theorem cleanups_le_startups {log : List Event} (h : Justified SoundAt log) :
    cleanups log ≤ startups log := by
  induction log using List.reverseRecOn with
  | nil => exact Nat.le_refl 0
  | append_singleton log e ih =>
    obtain ⟨hlog, he⟩ := justified_append.mp h
    have hbefore := ih hlog
    have hsound : SoundAt log e := by simpa using he
    cases e with
    | wsaCleanup sender =>
      simp only [SoundAt, cleanups, startups] at hsound
      simp [cleanups, startups, Event.isCleanup]
      omega
    | wsaStartup =>
      simp only [cleanups, startups] at hbefore
      simp [cleanups, startups, Event.isCleanup]
      omega
    | socket x => simpa [cleanups, startups, Event.isCleanup] using hbefore
    | sendFailed i => simpa [cleanups, startups, Event.isCleanup] using hbefore
    | startReturned => simpa [cleanups, startups, Event.isCleanup] using hbefore

/-- The clean-ups by `Start` and by one `Send` are different ones. -/
theorem count_cleanups_le (log : List Event) (i : Nat) :
    log.count (.wsaCleanup none) + log.count (.wsaCleanup (some i)) ≤ cleanups log := by
  induction log with
  | nil => exact Nat.le_refl 0
  | cons e log ih =>
    simp only [cleanups, List.count_cons, List.countP_cons] at ih ⊢
    cases e with
    | wsaCleanup sender =>
      cases sender with
      | none =>
        simp [Event.isCleanup]
        omega
      | some j =>
        simp [Event.isCleanup]
        split <;> omega
    | wsaStartup | socket | sendFailed | startReturned => simpa [Event.isCleanup] using ih

/-- In a sound run that has come to its end no `send` has failed. -/
theorem no_failed_send {actions : List Action} (hfinished : Finished (run step init actions).1)
    (h : Justified SoundAt (run step init actions).2) (i : Nat) :
    .sendFailed i ∉ (run step init actions).2 := by
  intro hmem
  have hbalance := run_balance actions
  have hstart := hbalance.start
  have hsend := hbalance.sends i
  rw [hfinished.1] at hstart
  rw [hfinished.2 i] at hsend
  have hpositive := List.count_pos_iff.mpr hmem
  have hmade := count_cleanups_le (run step init actions).2 i
  have hle := cleanups_le_startups h
  simp only [Phase.held, SendPhase.owes] at hstart hsend
  omega

/-- A step that is sound and in which no `send` fails is admitted. -/
theorem step_admits {a : Action} (h : Justified (fun pre => SoundAt (log ++ pre)) (step s a).2)
    (hfailed : ∀ i, .sendFailed i ∉ (step s a).2) : Admits log s a := by
  have hlive : ∀ c, s.clientSocket = some c →
      Justified (fun pre => SoundAt (log ++ pre)) (useClient s) → live c (socketLog log) = true := by
    intro c hc hsound
    simpa [useClient, hc, SoundAt, Proper] using hsound
  cases a with
  | start answer => trivial
  | send i accepted =>
    simp only [Admits]
    simp only [step, send] at h hfailed
    cases hphase : s.sends i with
    | idle =>
      simp only [hphase] at h hfailed
      split at h
      · rename_i hsent
        rw [Bool.and_eq_true] at hsent
        obtain ⟨c, hc⟩ := Option.isSome_iff_exists.mp hsent.2
        exact ⟨hsent.1, c, hc, hlive c hc h⟩
      · rename_i hnot
        rw [if_neg hnot] at hfailed
        exact absurd (by simp) (hfailed i)
    | newline =>
      simp only [hphase] at h
      intro c hc
      exact hlive c hc h
    | closing => trivial
    | cleaning => trivial

theorem run_admits {actions : List Action}
    (h : Justified (fun pre => SoundAt (log ++ pre)) (run step s actions).2)
    (hfailed : ∀ i, .sendFailed i ∉ (run step s actions).2) : Along step Admits log s actions := by
  induction actions generalizing log s with
  | nil => trivial
  | cons a actions ih =>
    rw [run_cons, justified_append] at h
    simp only [run_cons, List.mem_append, not_or] at hfailed
    refine ⟨step_admits h.1 (fun i => (hfailed i).1), ?_⟩
    refine ih ?_ (fun i => (hfailed i).2)
    simpa [List.append_assoc] using h.2

end Necessary

/-- When every `Send` comes while the client socket is open and its first `send` succeeds, the
resources balance at every moment. In a run that comes to its end they do only then. -/
theorem resources_balance (actions : List Action) :
    (Along step Admits [] init actions → Justified SoundAt (run step init actions).2) ∧
      (Finished (run step init actions).1 → Justified SoundAt (run step init actions).2 →
        Along step Admits [] init actions) := by
  refine ⟨?_, ?_⟩
  · intro hadmits
    have hinv : Inv (run step init actions).2 (run step init actions).1 :=
      run_invariant step Inv (fun _ _ _ h ha => step_inv h ha) init_inv hadmits
    exact hinv.books.sound
  · intro hfinished hsound
    refine run_admits ?_ (no_failed_send hfinished hsound)
    simpa using hsound

section Runs

def oneMessage : List Action :=
  [.start .success, .start .success, .start .success, .start .success, .start .success,
    .start .success, .start .success, .start .success, .send 0 true, .send 0 true, .start .closed,
    .start .success, .start .success, .start .success]

theorem one_message_balanced :
    (run step init oneMessage).1.phase = .idle ∧ Justified SoundAt (run step init oneMessage).2 := by
  refine ⟨rfl, (resources_balance oneMessage).1 ?_⟩
  refine ⟨trivial, trivial, trivial, trivial, trivial, trivial, trivial, trivial,
    And.intro rfl ⟨1, rfl, by decide⟩, ?_, trivial, trivial, trivial, trivial, trivial⟩
  intro c hc
  obtain rfl : 1 = c := Option.some.inj hc
  decide

def failedSend : List Action :=
  [.start .success, .start .success, .start .success, .start .success, .start .success,
    .start .success, .start .success, .send 0 false, .send 0 false, .send 0 false, .start .error,
    .start .success, .start .success]

theorem failed_send_unbalances : ¬ Justified SoundAt (run step init failedSend).2 := by
  intro h
  have hle := cleanups_le_startups h
  revert hle
  decide

end Runs

end WeiRtcNative.WinsockResources
