import Baler.Proofs.PendingDeliveries
import Baler.Proofs.Session
import Baler.Worker

/-! The shutdown of a worker. While its consumer runs, nothing is closed; when the run is over, for whatever
cause, the worker closes its channel and its connection, once, and then ends. -/
namespace Baler

namespace Amqp

/-- Whether an act announces that the line is closed, or closes a part of it. -/
def Act.closes : Act → Bool
  | .log (.event (.closing _)) => true
  | .call .closeChannel => true
  | .call .closeConnection => true
  | _ => false

/-- Replies of which none is a cancellation, or a fault that nothing absorbs. -/
def Replies.Ordinary (r : Replies) : Prop := ∀ site f, r site = some f → f.isOrdinary = true

namespace Channel

variable {c : Channel} {replies : Replies}

theorem isOrdinary_ofCall (h : replies.Ordinary) {site : Site} {f : Fault}
    (hf : replies.ofCall site = some f) : f.isOrdinary = true := by
  obtain ⟨g,hg,rfl⟩ : ∃ g, replies site = some g ∧ g.leavingCall = f := by
    simpa [Replies.ofCall] using hf
  rw [Fault.isOrdinary_leavingCall]
  exact h site g hg

theorem isOrdinary_dial (h : replies.Ordinary) {e : Endpoint} {f : Fault}
    (hf : (dial e replies).2 = some f) : f.isOrdinary = true := by
  unfold dial at hf
  cases ha : e.address? with
  | error g =>
    rw [ha] at hf
    cases hf
    exact Endpoint.isOrdinary_of_address? ha
  | ok address =>
    rw [ha] at hf
    exact isOrdinary_ofCall h hf

/-- A result that passes no fault on, with the acts that close something. -/
structure Result.Closes (r : Result) (acts : List Act) : Prop where
  fault : r.fault = none
  closings : r.acts.filter Act.closes = acts

theorem closes_closeConnection (h : replies.Ordinary) (held : c.hasConnection = true) :
    (c.closeConnection replies).Closes [.call .closeConnection] := by
  unfold closeConnection
  simp only [held,Bool.not_true,Bool.false_eq_true,if_false]
  cases hf : replies.ofCall .closeConnection with
  | none => exact ⟨rfl,rfl⟩
  | some f =>
    simp only [isOrdinary_ofCall h hf,if_true]
    exact ⟨rfl,rfl⟩

theorem closes_release (h : replies.Ordinary) (channel : c.hasChannel = true)
    (connection : c.hasConnection = true) :
    (c.release replies).Closes [.call .closeChannel, .call .closeConnection] := by
  have closed := closes_closeConnection (c := { c with hasChannel := false }) h connection
  unfold release
  simp only [channel,Bool.not_true,Bool.false_eq_true,if_false]
  cases hf : replies.ofCall .closeChannel with
  | none =>
    refine ⟨closed.fault,?_⟩
    rw [List.filter_cons_of_pos rfl,closed.closings]
  | some f =>
    simp only [isOrdinary_ofCall h hf,if_true]
    refine ⟨closed.fault,?_⟩
    rw [List.filter_cons_of_pos rfl,List.filter_cons_of_neg Bool.false_ne_true,closed.closings]

/-- The connection is closed after the channel, even if that fails. -/
theorem closes_close (h : replies.Ordinary) (channel : c.hasChannel = true)
    (connection : c.hasConnection = true) : (c.close replies).Closes
      [.event (.closing c.pending.size), .call .closeChannel, .call .closeConnection] := by
  have closed := closes_release (c := { c with stage := .closing, pending := .empty }) h channel connection
  unfold close
  simp only [closed.fault]
  refine ⟨rfl,?_⟩
  rw [List.filter_cons_of_pos rfl,closed.closings]

/-- A channel that has been set up holds the whole line, and has closed nothing. -/
structure Result.Holds (r : Result) : Prop where
  channel : r.channel.hasChannel = true
  connection : r.channel.hasConnection = true
  closings : r.acts.filter Act.closes = []

theorem fault_abandonSetup (c : Channel) (replies : Replies) (f : Fault) :
    (c.abandonSetup replies f).fault ≠ none := by
  unfold abandonSetup
  split
  · simp
  · dsimp only
    split <;> simp

theorem holds_setUp (held : c.hasConnection = true) (h : (c.setUp replies).fault = none) :
    (c.setUp replies).Holds := by
  unfold setUp at h ⊢
  cases hc : replies.ofCall .openChannel with
  | some f => simp [hc,fault_abandonSetup] at h
  | none =>
    cases hq : replies.ofCall .qos with
    | some f => simp [hc,hq,fault_abandonSetup] at h
    | none => exact ⟨rfl,held,rfl⟩

theorem closings_dial (e : Endpoint) (replies : Replies) : (dial e replies).1.filter Act.closes = [] := by
  unfold dial
  cases e.address? <;> rfl

theorem holds_connect (h : (c.connect replies).fault = none) : (c.connect replies).Holds := by
  unfold connect at h ⊢
  dsimp only at h ⊢
  cases hc : (dial c.endpoint replies).2 with
  | some f =>
    cases ho : f.isOrdinary <;> simp [hc,ho] at h
  | none =>
    simp only [hc] at h ⊢
    have held := holds_setUp (c := { c with stage := .connected, hasConnection := true }) rfl h
    refine ⟨held.channel,held.connection,?_⟩
    rw [List.cons_append,List.filter_cons_of_neg Bool.false_ne_true,List.filter_append,closings_dial]
    exact held.closings

end Channel
end Amqp

variable {τ : Type}

/-- An assembly of one station, with a channel that holds the whole line. -/
structure Assembly.Connected (a : Assembly τ) (ch : Amqp.Channel) (wired : Wired τ) : Prop where
  stations : a.stations = [⟨ch, some wired⟩]
  channelAt : a.channelAt = some 0
  channel : ch.hasChannel = true
  connection : ch.hasConnection = true

namespace Assembly

theorem filter_prefetchWarning (prefetch : Int) (capacity : Nat) :
    (prefetchWarning prefetch capacity).filter Amqp.Act.closes = [] := by
  unfold prefetchWarning
  split <;> rfl

theorem wire_single {a : Assembly τ} {ch : Amqp.Channel} (hs : a.stations = [⟨ch, none⟩]) (policy : Policy)
    (h : (a.wire 0 policy).fault = none) :
    (∃ wired, (a.wire 0 policy).assembly =
      { a with stations := [⟨ch, some wired⟩], consumerAt := some 0 }) ∧
      (a.wire 0 policy).acts.filter Amqp.Act.closes = [] := by
  unfold wire at h ⊢
  cases hj : a.judge? with
  | error f => simp [hj] at h
  | ok judge =>
    dsimp only
    rw [hs]
    exact ⟨⟨_,rfl⟩,rfl⟩

/-- A connection that returns leaves one station, with the consumer in use, and has closed nothing. -/
theorem connected_of_connect {settings : Settings} {judge : Option Judge} {replies : Amqp.Replies} :
    let r := connect (.fresh settings judge : Assembly τ) replies
    r.fault = none → (∃ ch wired, r.assembly.Connected ch wired) ∧ r.assembly.consumerAt = some 0 ∧
      r.acts.filter Amqp.Act.closes = [] := by
  intro r h
  simp only [r,connect,fresh] at h ⊢
  cases hp : settings.policy? with
  | error f => simp [hp] at h
  | ok policy =>
    cases hl : settings.line? with
    | error f => simp [hp,hl] at h
    | ok endpoint =>
      simp only [hp,hl] at h ⊢
      cases hc : ((Amqp.Channel.fresh endpoint).connect replies).fault with
      | some f => simp [hc] at h
      | none =>
        have held := Amqp.Channel.holds_connect hc
        simp only [hc,List.length_nil] at h ⊢
        obtain ⟨⟨wired,made⟩,closings⟩ := wire_single rfl policy h
        rw [made]
        refine ⟨⟨_,wired,rfl,rfl,held.channel,held.connection⟩,rfl,?_⟩
        rw [List.filter_append,List.filter_append,filter_prefetchWarning,held.closings,closings]
        rfl

theorem close_of_connected {a : Assembly τ} {ch : Amqp.Channel} {wired : Wired τ} (h : a.Connected ch wired)
    {closing : Amqp.Replies} (ordinary : closing.Ordinary) :
    let r := a.close (·.close closing)
    r.fault = none ∧ Amqp.settledBy r.acts = [] ∧ ∃ n, r.acts.filter Amqp.Act.closes =
      [.event (.closing n), .call .closeChannel, .call .closeConnection] := by
  have closed := Amqp.Channel.closes_close ordinary h.channel h.connection
  simp only [close,h.channelAt,h.stations,List.getElem?_cons_zero,closed.fault,true_and]
  exact ⟨(ch.pending_close closing).2,_,closed.closings⟩

end Assembly

/-- A worker at its only station, where `wired` is the consumer and `ch` holds the whole line. -/
structure Worker.Mans (w : Worker τ) (ch : Amqp.Channel) (wired : Wired τ) : Prop where
  connected : w.assembly.Connected ch wired
  station : w.station = 0

/-- Whether a deed closes a part of the line, or announces that. -/
def Deed.closes : Deed → Bool
  | .line a => a.closes
  | .consumer _ => false

/-- Whether a deed acks or nacks a delivery. -/
def Deed.settles : Deed → Bool
  | .line a => a.delivery?.isSome
  | .consumer (.settle _) => true
  | .consumer _ => false

/-- What happens to a worker: a signal comes, or its channel hands deliveries over or settles them. -/
inductive Incident (τ : Type)
  | signal (s : Worker.Signal τ)
  | traffic (pending : Amqp.Pending Amqp.Delivery)

/-- A worker from its start to its end, with all that was done. -/
structure Duty (τ : Type) where
  worker : Worker τ
  deeds : List Deed

namespace Duty

/-- The channel of a worker's station has other deliveries to settle. -/
def carry (w : Worker τ) (pending : Amqp.Pending Amqp.Delivery) : Worker τ :=
  { w with assembly.stations := w.assembly.stations.modify w.station fun s =>
      { s with channel.pending := pending } }

variable [Add τ] [LE τ] [DecidableLE τ]

/-- A worker connects and starts its consumer; `closing` is how the line replies when it is closed. -/
def start (w : Worker τ) (replies closing : Amqp.Replies) (listens : Bool) (instant : Float → τ) (now : τ) :
    Duty τ :=
  let (v, deeds) := w.start replies (·.close closing) listens instant now
  ⟨v, deeds⟩

/-- What an incident does to a worker that has not come to its end. -/
def next (closing : Amqp.Replies) (d : Duty τ) (i : Incident τ) : Duty τ :=
  if d.worker.phase.isNone then d
  else match i with
    | .signal s =>
      let (w, deeds) := d.worker.step (·.close closing) s
      ⟨w, d.deeds ++ deeds⟩
    | .traffic pending => { d with worker := carry d.worker pending }

/-- A worker after some incidents. -/
def after (closing : Amqp.Replies) (d : Duty τ) (is : List (Incident τ)) : Duty τ :=
  is.foldl (next closing) d

omit [Add τ] [LE τ] [DecidableLE τ]

/-- The worker is on duty: its consumer runs, and nothing has been closed. -/
structure OnDuty (d : Duty τ) : Prop where
  phase : d.worker.phase.isSome = true
  running : ∃ ch wired, d.worker.Mans ch wired ∧ wired.consumer.run.isSome = true
  unclosed : d.deeds.filter Deed.closes = []

/-- The worker has ended. When the run of its consumer `c` was over it stood at `v` and had done `before`;
then it closed everything, settled nothing and said that it stopped. -/
structure Relieved (closing : Amqp.Replies) (d : Duty τ) (v : Worker τ) (c : Consumer τ)
    (before last : List Deed) : Prop where
  phase : d.worker.phase = none
  consumer : v.consumer? = some c
  finished : c.run = none
  concluded : ∃ cancelled, v.conclude (·.close closing) cancelled c.ending = (d.worker, last)
  deeds : d.deeds = before ++ last
  unclosed : before.filter Deed.closes = []
  closings : ∃ n, last.filter Deed.closes = [Worker.event (.closing n), .line (.call .closeChannel),
    .line (.call .closeConnection)]
  settles : ∀ x ∈ last, x.settles = false
  stopped : last.getLast? = some (Worker.event .workerStopped)
  fault : ∀ f, c.ending = some (.raised f) → f.isOrdinary = true → d.worker.ending = some (.raised f)

section

variable {closing : Amqp.Replies} {w : Worker τ} {ch : Amqp.Channel} {wired : Wired τ} {before : List Deed}

theorem filter_line (acts : List Amqp.Act) :
    (acts.map Deed.line).filter Deed.closes = (acts.filter Amqp.Act.closes).map Deed.line := by
  rw [List.filter_map]
  rfl

theorem filter_consumer (actions : List Action) : (actions.map Deed.consumer).filter Deed.closes = [] := by
  rw [List.filter_map,List.map_eq_nil_iff]
  exact List.filter_eq_nil_iff.mpr fun a _ => Bool.false_ne_true

theorem OnDuty.phase_ne_none {d : Duty τ} (h : d.OnDuty) : d.worker.phase ≠ none :=
  Option.isSome_iff_ne_none.mp h.phase

theorem consumer?_of_mans (h : w.Mans ch wired) : w.consumer? = some wired.consumer := by
  simp [Worker.consumer?,Assembly.consumer?,h.station,h.connected.stations]

theorem mans_setConsumer (h : w.Mans ch wired) (c : Consumer τ) :
    { w with assembly := w.assembly.setConsumer w.station c }.Mans ch { wired with consumer := c } := by
  refine ⟨⟨?_,h.connected.channelAt,h.connected.channel,h.connected.connection⟩,h.station⟩
  simp [Assembly.setConsumer,h.station,h.connected.stations]

theorem mans_carry (h : w.Mans ch wired) (pending : Amqp.Pending Amqp.Delivery) :
    (carry w pending).Mans { ch with pending } wired := by
  refine ⟨⟨?_,h.connected.channelAt,h.connected.channel,h.connected.connection⟩,h.station⟩
  simp [carry,h.station,h.connected.stations]

/-- A worker whose consumer has ended closes everything in order. -/
theorem relieved_conclude (h : w.Mans ch wired) (finished : wired.consumer.run = none)
    (ordinary : closing.Ordinary) (cancelled : Bool) (unclosed : before.filter Deed.closes = []) :
    let (v, last) := w.conclude (·.close closing) cancelled wired.consumer.ending
    Relieved closing ⟨v, before ++ last⟩ w wired.consumer before last := by
  obtain ⟨fault,settles,n,closings⟩ := Assembly.close_of_connected h.connected ordinary
  let r := w.assembly.close (·.close closing)
  have concluded : w.conclude (·.close closing) cancelled wired.consumer.ending =
      ({ w with assembly := r.assembly }.halt (Worker.exitOf cancelled wired.consumer.ending),
        r.acts.map .line ++ [Worker.event .workerStopped]) := by
    simp only [Worker.conclude,fault,r]
  rw [concluded]
  refine ⟨rfl,consumer?_of_mans h,finished,⟨cancelled,concluded⟩,rfl,unclosed,⟨n,?_⟩,?_,?_,?_⟩
  · rw [List.filter_append,filter_line,closings]
    rfl
  · intro x hx
    rcases List.mem_append.mp hx with hx | hx
    · obtain ⟨a,ha,rfl⟩ := List.mem_map.mp hx
      have none := List.filterMap_eq_nil_iff.mp settles a ha
      simp [Deed.settles,none]
    · obtain rfl := List.mem_singleton.mp hx
      rfl
  · exact List.getLast?_concat
  · intro f hf ho
    have own : f.kind ≠ .cancelled := fun hk => by simp [Fault.isOrdinary,hk] at ho
    simp [Worker.halt,Worker.exitOf,Worker.passedOn,hf,own]

end

/-- A worker is on duty, or has been relieved in good order. -/
def Orderly (closing : Amqp.Replies) (d : Duty τ) : Prop :=
  d.OnDuty ∨ ∃ v c before last, d.Relieved closing v c before last

section

variable {closing : Amqp.Replies} {w : Worker τ} {ch : Amqp.Channel} {wired : Wired τ} {deeds : List Deed}

theorem orderly_settle (h : w.Mans ch wired) (hp : w.phase.isSome = true) (ordinary : closing.Ordinary)
    (unclosed : deeds.filter Deed.closes = []) (c : Consumer τ) (actions : List Action) :
    let (v, more) := w.settle (·.close closing) c actions
    Orderly closing ⟨v, deeds ++ more⟩ := by
  have mans := mans_setConsumer h c
  have quiet : (deeds ++ actions.map Deed.consumer).filter Deed.closes = [] := by
    rw [List.filter_append,unclosed,filter_consumer]
    rfl
  simp only [Worker.settle]
  split
  · rename_i running
    exact .inl ⟨hp,⟨ch,_,mans,running⟩,quiet⟩
  · rename_i gone
    have finished : c.run = none := by simpa using gone
    -- everything that the consumer has done comes before the closing
    rw [← List.append_assoc]
    exact .inr ⟨_,_,_,_,relieved_conclude mans finished ordinary _ quiet⟩

variable [Add τ] [LE τ] [DecidableLE τ]

theorem orderly_passSignal (h : w.Mans ch wired) (hp : w.phase.isSome = true) (ordinary : closing.Ordinary)
    (unclosed : deeds.filter Deed.closes = []) (s : Signal τ) :
    let (v, more) := w.passSignal (·.close closing) s
    Orderly closing ⟨v, deeds ++ more⟩ := by
  simp only [Worker.passSignal,consumer?_of_mans h]
  exact orderly_settle h hp ordinary unclosed _ _

theorem OnDuty.step {d : Duty τ} (h : d.OnDuty) (ordinary : closing.Ordinary) (s : Worker.Signal τ) :
    let (v, more) := d.worker.step (·.close closing) s
    Orderly closing ⟨v, d.deeds ++ more⟩ := by
  obtain ⟨ch,wired,mans,running⟩ := h.running
  have stays : Orderly closing ⟨d.worker,d.deeds ++ []⟩ :=
    .inl ⟨h.phase,h.running,by rw [List.append_nil]; exact h.unclosed⟩
  -- to stop its consumer the worker changes its own phase and then passes a cancellation on
  have told : ∀ p (s : Signal τ), let (v, more) := { d.worker with phase := some p }.passSignal (·.close closing) s
      Orderly closing ⟨v, d.deeds ++ more⟩ :=
    fun p s => orderly_passSignal (w := { d.worker with phase := some p }) ⟨mans.connected,mans.station⟩ rfl
      ordinary h.unclosed s
  have passed := fun s => orderly_passSignal mans h.phase ordinary h.unclosed (s : Signal τ)
  obtain ⟨p,hp⟩ := Option.isSome_iff_exists.mp h.phase
  cases s with
  | ring =>
    simp only [Worker.step]
    split
    · refine .inl ⟨h.phase,⟨ch,wired,⟨mans.connected,mans.station⟩,running⟩,?_⟩
      rw [List.filter_append,h.unclosed]
      rfl
    · exact stays
  | consumer s =>
    simp only [Worker.step,hp]
    exact passed s
  | notice =>
    cases p with
    | supervising =>
      simp only [Worker.step,hp]
      split
      · exact told _ _
      · exact stays
    | stopping cancelled =>
      simp only [Worker.step,hp]
      exact stays
  | cancel =>
    cases p with
    | supervising =>
      simp only [Worker.step,hp]
      exact told _ _
    | stopping cancelled =>
      simp only [Worker.step,hp]
      exact passed _

theorem Orderly.next {d : Duty τ} (h : d.Orderly closing) (ordinary : closing.Ordinary) (i : Incident τ) :
    (d.next closing i).Orderly closing := by
  cases h with
  | inr relieved =>
    -- nothing happens to a worker after its end
    obtain ⟨v,c,before,last,ended⟩ := relieved
    simp only [Duty.next,ended.phase]
    exact .inr ⟨v,c,before,last,ended⟩
  | inl duty =>
    obtain ⟨p,hp⟩ := Option.isSome_iff_exists.mp duty.phase
    simp only [Duty.next,hp]
    cases i with
    | signal s => exact duty.step ordinary s
    | traffic pending =>
      obtain ⟨ch,wired,mans,running⟩ := duty.running
      exact .inl ⟨duty.phase,⟨_,wired,mans_carry mans pending,running⟩,duty.unclosed⟩

/-- A worker that has connected mans its station and begins the run of its consumer. -/
theorem start_of_connected (w : Worker τ) {replies : Amqp.Replies} (closing : Amqp.Replies)
    (connected : (Assembly.connect (.fresh w.assembly.settings none) replies : Assembly.Result τ).fault = none)
    (listens : Bool) (instant : Float → τ) (now : τ) :
    ∃ (v : Worker τ) (ch : _) (wired : Wired τ) (before : List Deed),
      v.Mans ch wired ∧ v.phase = some .supervising ∧ v.bell = (if listens then .armed else w.bell) ∧
      v.ending = none ∧ before.filter Deed.closes = [] ∧
      start w replies closing listens instant now =
        let (begun, actions) := wired.consumer.begin instant (.ok true) now
        let (u, more) := v.settle (·.close closing) begun actions
        ⟨u, before ++ more⟩ := by
  obtain ⟨⟨ch,wired,made⟩,consumerAt,unclosed⟩ := Assembly.connected_of_connect connected
  let r : Assembly.Result τ := Assembly.connect (.fresh w.assembly.settings none) replies
  let v : Worker τ := { w with
    assembly := r.assembly
    bell := if listens then .armed else w.bell
    station := 0
    phase := some .supervising
    ending := none }
  have mans : v.Mans ch wired := ⟨made,rfl⟩
  refine ⟨v,ch,wired,r.acts.map Deed.line ++ [Worker.event (.workerStarted r.assembly.settings.queueName)],mans,
    rfl,rfl,rfl,?_,?_⟩
  · rw [List.filter_append,filter_line,unclosed]
    rfl
  · simp only [start,Worker.start,connected,consumerAt,Option.getD_some,Worker.startConsumer]
    rw [consumer?_of_mans mans]
    simp [v,r]

theorem orderly_start (w : Worker τ) {replies : Amqp.Replies} (ordinary : closing.Ordinary)
    (connected : (Assembly.connect (.fresh w.assembly.settings none) replies : Assembly.Result τ).fault = none)
    (listens : Bool) (instant : Float → τ) (now : τ) :
    (start w replies closing listens instant now).Orderly closing := by
  obtain ⟨v,ch,wired,before,mans,phase,-,-,quiet,begins⟩ :=
    start_of_connected w closing connected listens instant now
  rw [begins]
  exact orderly_settle mans (by rw [phase]; rfl) ordinary quiet _ _

/-- Every worker whose connection has returned is on duty, with its consumer running and its line open,
until the run of its consumer is over; then it has closed everything in order and has ended. This holds
after every series of signals, cancellations and traffic, when the line fails in no worse way than by an
ordinary fault as it is closed. -/
theorem on_duty_or_relieved (w : Worker τ) (replies closing : Amqp.Replies) (listens : Bool)
    (instant : Float → τ) (now : τ) (incidents : List (Incident τ))
    (connected : (Assembly.connect (.fresh w.assembly.settings none) replies : Assembly.Result τ).fault = none)
    (ordinary : closing.Ordinary) :
    let d := (start w replies closing listens instant now).after closing incidents
    d.OnDuty ∨ ∃ v c before last, d.Relieved closing v c before last := by
  have kept : ∀ d : Duty τ, d.Orderly closing → (d.after closing incidents).Orderly closing := by
    induction incidents with
    | nil => exact fun d h => h
    | cons i rest ih => exact fun d h => ih _ (h.next ordinary i)
  exact kept _ (orderly_start w ordinary connected listens instant now)

end

/-- A worker for pairs of deliveries. -/
def forPairs : Worker Nat :=
  .fresh ⟨"localhost", 5672, "guest", "guest", "/", "orders", "", 10, "rabbitmq", 2, 10000, .batched, true,
    "fail", "INFO", false⟩

/-- The line replies with a fault when the channel is closed. -/
def reset : Amqp.Replies
  | .closeChannel => some ⟨.connection "ConnectionResetError", "reset"⟩
  | _ => none

/-- A strategy fails on a pair, and one nack is refused, while a shutdown is asked for. -/
def failsAtShutdown : List (Incident Nat) :=
  ((Session.arrival 1 ++ Session.arrival 2).map fun s => .signal (.consumer s)) ++
    [.traffic (Amqp.Pending.empty.track 2 (.numbered 1 2)), .signal .ring,
      .signal (.consumer (.replied (.answered (.raised ⟨.value, "no such row"⟩)) 1)),
      .signal (.consumer (.replied (.settled (some ⟨.settlement, "refused"⟩)) 2)),
      .signal (.consumer (.replied (.settled none) 3)), .signal (.consumer (.closed none))]

theorem relieved_of_failsAtShutdown :
    let d := (start forPairs (fun _ => none) reset true (fun _ => 10) 0).after reset failsAtShutdown
    d.worker.ending = some (.raised ⟨.value, "no such row"⟩) ∧ d.worker.bell = .rung ∧
      ∃ v c before last, d.Relieved reset v c before last := by
  intro d
  have connected : (Assembly.connect (.fresh forPairs.assembly.settings none) fun _ => none :
      Assembly.Result Nat).fault = none := by decide +kernel
  have ordinary : reset.Ordinary := by
    intro site f h
    cases site <;> cases h
    rfl
  have gone : d.worker.phase = none := by decide +kernel
  have kept : d.OnDuty ∨ ∃ v c before last, d.Relieved reset v c before last :=
    on_duty_or_relieved forPairs (fun _ => none) reset true (fun _ => 10) 0 failsAtShutdown connected ordinary
  exact ⟨by decide +kernel,by decide +kernel,kept.resolve_left fun duty => duty.phase_ne_none gone⟩

end Duty
end Baler
