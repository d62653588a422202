import Baler.Consumer
import Baler.Proofs.PlanCalls

/-! Sessions: a consumer through all its runs, beside a bystander who writes down what passes
between it, its streams, its strategy and the broker. The book is written from the events and the
actions alone. -/
namespace Baler

open Settlement

/-- What happens to a consumer: a run is begun, or something happens to its run. -/
inductive Event (τ : Type)
  | begin (subscription : Except Fault Bool) (now : τ)
  | signal (s : Signal τ)

/-- What a bystander sees of an event before the consumer acts on it. -/
inductive Sight
  | nothing
  | handed (h : Handle)
  | read (h : Handle)
  | ended
  | judged (batch : List Handle) (a : Answer)
  | replied (c : Call) (fault : Option Fault)
  | interrupted
deriving DecidableEq

/-- The delivery that a sight tells to be handed over. -/
def Sight.handing : Sight → List Handle
  | .handed h => [h]
  | _ => []

/-- The delivery that a sight tells to be read. -/
def Sight.reading : Sight → List Handle
  | .read h => [h]
  | _ => []

/-- The batch that a sight tells to be judged, with the answer. -/
def Sight.judging : Sight → List (List Handle × Answer)
  | .judged batch a => [(batch, a)]
  | _ => []

/-- Whether an answer of the stream is a delivery. -/
def Reception.isDelivery : Reception → Bool
  | .delivery _ => true
  | _ => false

/-- What is seen of an answer of the stream. -/
def Reception.sight : Reception → Sight
  | .delivery h => .handed h
  | _ => .nothing

/-- The delivery of a request that has been answered with one but not read. -/
def Receive.unread : Receive → List Handle
  | .ready (.delivery h) => [h]
  | _ => []

/-- The request of a loop that waits. -/
def Receive.asked : Receive → Receive
  | .idle => .pending
  | r => r

@[simp] theorem Receive.unread_asked (q : Receive) : q.asked.unread = q.unread := by
  cases q <;> rfl

theorem Receive.unread_of_not_ready {q : Receive} (h : ∀ got, q ≠ .ready got) : q.unread = [] := by
  cases q with
  | ready got => exact absurd rfl (h got)
  | _ => rfl

theorem Receive.unread_of_not_delivery {got : Reception} (h : got.isDelivery = false) :
    (Receive.ready got).unread = [] := by
  cases got <;> first | rfl | cases h

@[simp] theorem Reception.handing_sight (got : Reception) :
    got.sight.handing = (Receive.ready got).unread := by
  cases got <;> rfl

theorem Reception.sight_quiet (got : Reception) : got.sight.reading = [] ∧ got.sight.judging = [] := by
  cases got <;> exact ⟨rfl,rfl⟩

/-- Whether a run is in its loop, and not in its cleanup. -/
def Phase.isLoop : Phase → Bool
  | .waiting | .spinning | .flushing _ _ _ => true
  | .stoppingReceive _ | .closingStream _ => false

/-- Whether a flush is in progress. -/
def Phase.isFlush : Phase → Bool
  | .flushing _ _ _ => true
  | _ => false

/-- The batch that the strategy has been given. -/
def Phase.deciding : Phase → Option (List Handle)
  | .flushing _ _ (.deciding batch) => some batch
  | _ => none

/-- The call in flight and those that the plan has left. -/
def Phase.calls : Phase → List Call
  | .flushing _ _ (.settling c rest _ _) => c :: callsOf rest
  | _ => []

/-- The batch that an action gives to the strategy. -/
def Action.batch? : Action → Option (List Handle)
  | .process batch => some batch
  | _ => none

/-- The call that an action makes. -/
def Action.call? : Action → Option Call
  | .settle c => some c
  | _ => none

/-- The batches that actions give to the strategy. -/
def taken (actions : List Action) : List (List Handle) := actions.filterMap Action.batch?

/-- The calls that actions make. -/
def asked (actions : List Action) : List Call := actions.filterMap Action.call?

@[simp] theorem taken_nil : taken [] = [] := rfl
@[simp] theorem asked_nil : asked [] = [] := rfl
@[simp] theorem taken_append (as bs : List Action) : taken (as ++ bs) = taken as ++ taken bs :=
  List.filterMap_append
@[simp] theorem asked_append (as bs : List Action) : asked (as ++ bs) = asked as ++ asked bs :=
  List.filterMap_append
@[simp] theorem taken_log (r : Log.Record) (as : List Action) : taken (.log r :: as) = taken as := rfl
@[simp] theorem asked_log (r : Log.Record) (as : List Action) : asked (.log r :: as) = asked as := rfl
@[simp] theorem taken_logs (rs : List Log.Record) : taken (rs.map .log) = [] := by
  induction rs with
  | nil => rfl
  | cons r rs ih => exact ih
@[simp] theorem asked_logs (rs : List Log.Record) : asked (rs.map .log) = [] := by
  induction rs with
  | nil => rfl
  | cons r rs ih => exact ih
@[simp] theorem taken_subscribe (q : String) (as : List Action) :
    taken (.subscribe q :: as) = taken as := rfl
@[simp] theorem asked_subscribe (q : String) (as : List Action) :
    asked (.subscribe q :: as) = asked as := rfl

namespace Consumer

variable {τ : Type}

/-- Whether a run is in its loop. -/
def looping (c : Consumer τ) : Bool := c.run.any (·.phase.isLoop)

/-- The delivery that has come and is not read. -/
def unread (c : Consumer τ) : List Handle := (c.run.map (·.receive.unread)).getD []

/-- The batch that is with the strategy. -/
def deciding (c : Consumer τ) : Option (List Handle) := c.run.bind (·.phase.deciding)

/-- The call in flight and those that the plan has left. -/
def calls (c : Consumer τ) : List Call := (c.run.map (·.phase.calls)).getD []

/-- Whether a flush is in progress. -/
def flushing (c : Consumer τ) : Bool := c.run.any (·.phase.isFlush)

/-- Whether a flush is in progress that the timer has started. -/
def flushesOnTime (c : Consumer τ) : Prop :=
  ∃ r size work, c.run = some r ∧ r.phase = .flushing .timeout size work

section

variable {c : Consumer τ} {r : Run τ}

theorem looping_of_run (hr : c.run = some r) : c.looping = r.phase.isLoop := by
  rw [looping,hr]; rfl
theorem flushing_of_run (hr : c.run = some r) : c.flushing = r.phase.isFlush := by
  rw [flushing,hr]; rfl
theorem unread_of_run (hr : c.run = some r) : c.unread = r.receive.unread := by
  rw [unread,hr]; rfl
theorem deciding_of_run (hr : c.run = some r) : c.deciding = r.phase.deciding := by
  rw [deciding,hr]; rfl
theorem calls_of_run (hr : c.run = some r) : c.calls = r.phase.calls := by
  rw [calls,hr]; rfl

/-- The answer of the stream leaves a flush as it is. -/
theorem deciding_answered (hr : c.run = some r) (q : Receive) :
    (c.suspend { r with receive := q }).deciding = c.deciding := by rw [deciding_of_run hr]; rfl
theorem calls_answered (hr : c.run = some r) (q : Receive) :
    (c.suspend { r with receive := q }).calls = c.calls := by rw [calls_of_run hr]; rfl
theorem flushing_answered (hr : c.run = some r) (q : Receive) :
    (c.suspend { r with receive := q }).flushing = c.flushing := by rw [flushing_of_run hr]; rfl

theorem unread_of_rest (hr : c.run = none) : c.unread = [] := by rw [unread,hr]; rfl

theorem looping_of_flushing (h : c.flushing = true) : c.looping = true := by
  cases hr : c.run with
  | none => simp [flushing,hr] at h
  | some r =>
    rw [flushing_of_run hr] at h
    rw [looping_of_run hr]
    cases hp : r.phase <;> simp [hp,Phase.isFlush] at h ⊢
    rfl

theorem flushing_of_deciding {batch : List Handle} (h : c.deciding = some batch) :
    c.flushing = true := by
  cases hr : c.run with
  | none => simp [deciding,hr] at h
  | some r =>
    rw [deciding_of_run hr] at h
    rw [flushing_of_run hr]
    cases hp : r.phase <;> simp [hp,Phase.deciding] at h ⊢
    rfl

theorem no_calls_of_deciding {batch : List Handle} (h : c.deciding = some batch) : c.calls = [] := by
  cases hr : c.run with
  | none => simp [deciding,hr] at h
  | some r =>
    rw [deciding_of_run hr] at h
    rw [calls_of_run hr]
    cases hp : r.phase with
    | flushing trigger size work =>
      cases work with
      | deciding b => rfl
      | settling call rest closing failure => simp [hp,Phase.deciding] at h
    | _ => rfl

theorem flushing_of_calls (h : c.calls ≠ []) : c.flushing = true := by
  cases hr : c.run with
  | none => simp [calls,hr] at h
  | some r =>
    rw [calls_of_run hr] at h
    rw [flushing_of_run hr]
    cases hp : r.phase <;> simp [hp,Phase.calls] at h ⊢
    rfl

theorem deciding_of_outside (h : c.looping = false) : c.deciding = none := by
  cases hr : c.run with
  | none => rw [deciding,hr]; rfl
  | some r =>
    rw [looping_of_run hr] at h
    rw [deciding_of_run hr]
    cases hp : r.phase <;> simp [hp,Phase.isLoop] at h ⊢ <;> rfl

theorem calls_of_outside (h : c.looping = false) : c.calls = [] := by
  cases hr : c.run with
  | none => rw [calls,hr]; rfl
  | some r =>
    rw [looping_of_run hr] at h
    rw [calls_of_run hr]
    cases hp : r.phase <;> simp [hp,Phase.isLoop] at h ⊢ <;> rfl

theorem looping_of_rest (hr : c.run = none) : c.looping = false := by rw [looping,hr]; rfl

end

/-- What a bystander sees of an event. -/
def sight (c : Consumer τ) : Event τ → Sight
  | .begin _ _ => .nothing
  | .signal s =>
    match c.run with
    | none => .nothing
    | some r =>
      match s, r.phase with
      | .received (.delivery h), _ => if r.receive = .pending then .handed h else .nothing
      | .wake _, .waiting =>
        match r.receive with
        | .ready (.delivery h) => .read h
        | .ready _ => .ended
        | _ => .nothing
      | .replied (.answered a) _, .flushing _ _ (.deciding batch) => .judged batch a
      | .replied (.settled fault) _, .flushing _ _ (.settling c _ _ _) => .replied c fault
      | .cancel, .flushing _ _ _ => .interrupted
      | _, _ => .nothing

variable [Add τ] [LE τ] [DecidableLE τ]

/-- What a consumer does on an event. A run cannot be begun during another. -/
def react (instant : Float → τ) (c : Consumer τ) : Event τ → Consumer τ × List Action
  | .begin subscription now =>
    if c.run.isSome then (c, []) else c.begin instant subscription now
  | .signal s => c.step s

end Consumer

/-- A consumer, and what the bystander has written down: the deliveries that the streams handed over
and, of these, the ones since the last batch was taken; the deliveries that the loop read; the batches
that the strategy was given and its answers; the broker's book; and the deliveries that interrupted
flushes left behind. -/
structure Session (τ : Type) where
  consumer : Consumer τ
  handed : List Handle
  late : List Handle
  read : List Handle
  batches : List (List Handle)
  reports : List (List Handle × Answer)
  broker : Broker
  abandoned : List Int

namespace Session

variable {τ : Type}

/-- A session that begins with a consumer between two runs. -/
def start (c : Consumer τ) : Session τ := ⟨c, [], [], [], [], [], .fresh, []⟩

/-- Whether the strategy has reported a delivery as processed. -/
def Processed (s : Session τ) (id : Int) : Prop :=
  ∃ r ∈ s.reports, id ∈ ids r.1 ∧ r.2.processes id = true

instance (s : Session τ) (id : Int) : Decidable (s.Processed id) :=
  inferInstanceAs (Decidable (∃ r ∈ s.reports, id ∈ ids r.1 ∧ r.2.processes id = true))

/-- The deliveries of the last batch that are outstanding and not reported as processed. -/
def forsaken (s : Session τ) : List Int :=
  (ids (s.batches.getLast?.getD [])).filter fun id =>
    id ∈ s.broker.outstanding ∧ ¬ s.Processed id

/-- The book after a sight. -/
def note (s : Session τ) : Sight → Session τ
  | .nothing | .ended => s
  | .handed h => { s with
      handed := s.handed ++ [h]
      late := s.late ++ [h]
      broker := s.broker.deliver h.id }
  | .read h => { s with read := s.read ++ [h] }
  | .judged batch a => { s with reports := s.reports ++ [(batch, a)] }
  | .replied c none => { s with broker := s.broker.settle c }
  | .replied _ (some _) => s
  | .interrupted => { s with abandoned := s.abandoned ++ s.forsaken }

/-- The consumer has moved on and given batches to the strategy. -/
def move (s : Session τ) (c : Consumer τ) (taken : List (List Handle)) : Session τ :=
  { s with
    consumer := c
    batches := s.batches ++ taken
    late := if taken = [] then s.late else [] }

section

variable (s : Session τ) (x : Sight)

@[simp] theorem batches_note : (s.note x).batches = s.batches := by
  cases x with
  | replied c fault => cases fault <;> rfl
  | _ => rfl
@[simp] theorem read_note : (s.note x).read = s.read ++ x.reading := by
  cases x with
  | read h => rfl
  | replied c fault => cases fault <;> exact (List.append_nil _).symm
  | _ => exact (List.append_nil _).symm
@[simp] theorem handed_note : (s.note x).handed = s.handed ++ x.handing := by
  cases x with
  | handed h => rfl
  | replied c fault => cases fault <;> exact (List.append_nil _).symm
  | _ => exact (List.append_nil _).symm
@[simp] theorem reports_note : (s.note x).reports = s.reports ++ x.judging := by
  cases x with
  | judged batch a => rfl
  | replied c fault => cases fault <;> exact (List.append_nil _).symm
  | _ => exact (List.append_nil _).symm
@[simp] theorem late_note : (s.note x).late = s.late ++ x.handing := by
  cases x with
  | handed h => rfl
  | replied c fault => cases fault <;> exact (List.append_nil _).symm
  | _ => exact (List.append_nil _).symm

variable (d : Consumer τ) (taken : List (List Handle))

@[simp] theorem consumer_move : (s.move d taken).consumer = d := rfl
@[simp] theorem batches_move : (s.move d taken).batches = s.batches ++ taken := rfl
@[simp] theorem read_move : (s.move d taken).read = s.read := rfl
@[simp] theorem handed_move : (s.move d taken).handed = s.handed := rfl
@[simp] theorem reports_move : (s.move d taken).reports = s.reports := rfl
@[simp] theorem late_move_nil : (s.move d []).late = s.late := rfl
@[simp] theorem late_move_cons (b : List Handle) : (s.move d (b :: taken)).late = [] := by
  simp [move]

end

section

variable {s : Session τ} {x : Sight} {id : Int}

/-- Only deliveries that are handed over get out, and a call takes back those that it reaches. -/
theorem mem_outstanding_note (h : id ∈ (s.note x).broker.outstanding) : id ∈ ids x.handing ∨
    id ∈ s.broker.outstanding ∧ ∀ call, x = .replied call none → ¬ Broker.reaches call id := by
  cases x with
  | handed g =>
    rcases List.mem_append.mp h with h | h
    · exact .inr ⟨h,fun call hc => by cases hc⟩
    · exact .inl h
  | replied call fault =>
    cases fault with
    | none =>
      refine .inr ⟨s.broker.outstanding_settle_subset call h,?_⟩
      rintro call' ⟨⟩ hr
      exact Broker.not_mem_outstanding_settle hr h
    | some f => exact .inr ⟨h,fun call' hc => by cases hc⟩
  | _ => exact .inr ⟨h,fun call hc => by cases hc⟩

theorem mem_acked_note (h : id ∈ (s.note x).broker.acked) : id ∈ s.broker.acked ∨
    ∃ call, x = .replied call none ∧ (call = .ack id false ∨
      ∃ n, call = .ack n true ∧ id ∈ s.broker.outstanding ∧ id ≤ n) := by
  cases x with
  | replied call fault =>
    cases fault with
    | none => exact (Broker.mem_acked_settle h).imp_right (fun hc => ⟨call,rfl,hc⟩)
    | some f => exact .inl h
  | _ => exact .inl h

/-- A delivery that is out stays out unless a call reaches it. -/
theorem outstanding_note_or_reached (h : id ∈ s.broker.outstanding) :
    id ∈ (s.note x).broker.outstanding ∨ ∃ call, x = .replied call none ∧ Broker.reaches call id := by
  cases x with
  | handed g => exact .inl (List.mem_append_left _ h)
  | replied call fault =>
    cases fault with
    | none =>
      rcases Classical.em (Broker.reaches call id) with hr | hr
      · exact .inr ⟨call,rfl,hr⟩
      · exact .inl (Broker.mem_outstanding_settle h hr)
    | some f => exact .inl h
  | _ => exact .inl h

end

variable [Add τ] [LE τ] [DecidableLE τ]

/-- A session after an event. -/
def next (instant : Float → τ) (s : Session τ) (e : Event τ) : Session τ :=
  let (c, actions) := s.consumer.react instant e
  (s.note (s.consumer.sight e)).move c (taken actions)

/-- A session after events. -/
def after (instant : Float → τ) (s : Session τ) (es : List (Event τ)) : Session τ :=
  es.foldl (next instant) s

/-- A run of a consumer between two runs: it is begun, and then gets signals. -/
def run (instant : Float → τ) (c : Consumer τ) (subscription : Except Fault Bool) (now : τ)
    (signals : List (Signal τ)) : Session τ :=
  (start c).after instant (.begin subscription now :: signals.map .signal)

/-- A run leaves its loop only to read the end or the failure of its stream. -/
def Orderly (instant : Float → τ) (s : Session τ) : List (Event τ) → Prop
  | [] => True
  | e :: es =>
    (s.consumer.looping = true → (s.next instant e).consumer.looping = true ∨
      s.consumer.sight e = .ended) ∧ Orderly instant (s.next instant e) es

instance decidableOrderly (instant : Float → τ) (s : Session τ) :
    (es : List (Event τ)) → Decidable (s.Orderly instant es)
  | [] => .isTrue trivial
  | e :: es =>
    have := decidableOrderly instant (s.next instant e) es
    inferInstanceAs (Decidable (_ ∧ _))

/-- A consumer of pairs with cumulative acks. Its timer is due after ten steps. -/
def pairs : Consumer Nat := .fresh "orders" ⟨2, .real 10, .batched, by decide⟩ false

/-- A delivery comes and is read. -/
def arrival (id : Int) : List (Signal Nat) := [.received (.delivery ⟨id, [], "orders"⟩), .wake 0]

end Session
end Baler
