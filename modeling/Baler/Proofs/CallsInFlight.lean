import Baler.Proofs.LastBatch

/-! The calls of a plan under way. They come from the verdicts of one batch and become fewer with
every reply, and what the processor remembers grows by nacks that failed alone. -/
namespace Baler

open Settlement

variable {τ : Type} {c d : Consumer τ} {r : Run τ} {batches : List (List Handle)} {calls : List Call}
  {x : Sight}

theorem Advances.no_calls {trigger : Trigger} {size : Nat} {failure : Option Fault}
    (h : Advances c r trigger size (.finished failure) d batches calls) : d.calls = [] := by
  cases h with
  | resumes tolerable go => exact go.no_calls
  | leaves fatal out => exact Consumer.calls_of_outside out.outside

theorem Advances.asks_nothing {trigger : Trigger} {size : Nat} {failure : Option Fault}
    (h : Advances c r trigger size (.finished failure) d batches calls) : calls = [] := by
  cases h <;> rfl

/-- A walk leaves the calls that it was given. -/
theorem Walk.calls_eq {cs : List Call} {failure : Option Fault} {p : Progress} {trigger : Trigger}
    {size : Nat} (walk : Walk cs failure p) (go : Advances c r trigger size p d batches calls) :
    d.calls = cs := by
  cases walk with
  | calling h =>
    cases go
    exact h.symm
  | done h => rw [h]; exact go.no_calls

/-- A walk makes the first of its calls. -/
theorem Walk.asked_eq {cs : List Call} {failure : Option Fault} {p : Progress} {trigger : Trigger}
    {size : Nat} (walk : Walk cs failure p) (go : Advances c r trigger size p d batches calls) :
    calls = cs.head?.toList := by
  cases walk with
  | calling h =>
    cases go
    rw [h]
    rfl
  | done h => rw [h]; exact go.asks_nothing

theorem Walk.asked_mem {cs : List Call} {failure : Option Fault} {p : Progress} {trigger : Trigger}
    {size : Nat} (walk : Walk cs failure p) (go : Advances c r trigger size p d batches calls)
    {call : Call} (h : call ∈ calls) : call ∈ cs := by
  rw [walk.asked_eq go] at h
  exact List.mem_of_mem_head? (Option.mem_toList.mp h)

theorem Resumed.asked_mem {p q : Processor} {rest : List Step} {failure fault : Option Fault}
    {first : Call} {progress : Progress} {trigger : Trigger} {size : Nat}
    (res : Resumed p rest failure first fault q progress)
    (go : Advances c r trigger size progress d batches calls) {call : Call} (h : call ∈ calls) :
    call ∈ callsOf rest := by
  cases res with
  | taken walk => exact walk.asked_mem go h
  | ackFailed ordinary walk => exact walk.asked_mem go h
  | nackFailed ordinary walk => exact walk.asked_mem go h
  | cumulativeFailed ordinary => simp [go.asks_nothing] at h
  | broken grave => simp [go.asks_nothing] at h

/-- A reply leaves the calls of the steps that are left, or none. -/
theorem Resumed.calls_eq {p q : Processor} {rest : List Step} {failure fault : Option Fault} {call : Call}
    {progress : Progress} {trigger : Trigger} {size : Nat}
    (res : Resumed p rest failure call fault q progress)
    (go : Advances c r trigger size progress d batches calls) :
    d.calls = callsOf rest ∨ d.calls = [] := by
  cases res with
  | taken walk => exact .inl (walk.calls_eq go)
  | ackFailed ordinary walk => exact .inl (walk.calls_eq go)
  | nackFailed ordinary walk => exact .inl (walk.calls_eq go)
  | cumulativeFailed ordinary => exact .inr go.no_calls
  | broken grave => exact .inr go.no_calls

theorem Resumed.mem_failedNacks {p q : Processor} {rest : List Step} {failure fault : Option Fault}
    {call : Call} {progress : Progress} (res : Resumed p rest failure call fault q progress) {id : Int}
    (h : id ∈ p.failedNacks) : id ∈ q.failedNacks := by
  cases res with
  | nackFailed ordinary walk => exact mem_failedNacks_remember.mpr (.inl h)
  | taken walk => exact h
  | ackFailed ordinary walk => exact h
  | cumulativeFailed ordinary => exact h
  | broken grave => exact h

theorem Move.calls_cases (m : Move c x d batches calls) : d.calls <:+ c.calls ∨
    ∃ batch a, x = .judged batch a ∧ c.deciding = some batch ∧
      d.calls = (Plan.make c.processor.mode c.processor.failedNacks batch a).calls := by
  have none : d.calls = [] → d.calls <:+ c.calls := fun h => h ▸ List.nil_suffix
  cases m with
  | stays => exact .inl List.suffix_rfl
  | refused exit hr => exact .inl (none rfl)
  | answered got hr hq => rw [Consumer.calls_answered hr]; exact .inl List.suffix_rfl
  | fills hr hp hq full => exact .inl (none rfl)
  | turns why go => exact .inl (none go.no_calls)
  | advances hr hp why go =>
    rw [Consumer.deciding_of_run hr,Consumer.calls_of_run hr,hp]
    cases why with
    | judged walk => exact .inr ⟨_,_,rfl,rfl,walk.calls_eq go⟩
    | @replied call rest closing failure fault q progress res =>
      left
      rcases res.calls_eq go with h | h
      · rw [h]
        exact ⟨[call],rfl⟩
      · rw [h]
        exact List.nil_suffix
  | leaves hr why out => exact .inl (none (Consumer.calls_of_outside out.outside))

/-- A call is made for the batch that is judged, or it was due after the call that is replied to. -/
theorem Move.asked_cases (m : Move c x d batches calls) {call : Call} (h : call ∈ calls) :
    (∃ batch a, x = .judged batch a ∧ c.deciding = some batch ∧
      call ∈ (Plan.make c.processor.mode c.processor.failedNacks batch a).calls) ∨
    ∃ first rest, c.calls = first :: rest ∧ call ∈ rest := by
  cases m with
  | advances hr hp why go =>
    rw [Consumer.deciding_of_run hr,Consumer.calls_of_run hr,hp]
    cases why with
    | judged walk => exact .inl ⟨_,_,rfl,rfl,walk.asked_mem go h⟩
    | replied res => exact .inr ⟨_,_,rfl,res.asked_mem go h⟩
  | _ => cases h

/-- The strategy's answer makes the first call of its plan. -/
theorem Move.asked_of_judged {batch : List Handle} {a : Answer}
    (m : Move c (.judged batch a) d batches calls) :
    calls = (Plan.make c.processor.mode c.processor.failedNacks batch a).calls.head?.toList := by
  obtain ⟨r,trigger,size,progress,-,-,walk,go⟩ := m.of_judged
  exact walk.asked_eq go

/-- While calls are left no batch is taken. -/
theorem Move.nothing_taken (m : Move c x d batches calls) (h : d.calls ≠ []) : batches = [] := by
  have done : d.deciding.toList = batches → batches = [] := by
    intro hb
    cases hd : d.deciding with
    | none => rw [← hb,hd]; rfl
    | some batch => exact absurd (Consumer.no_calls_of_deciding hd) h
  cases m with
  | fills hr hp hq full => exact absurd rfl h
  | turns why go => exact done go.deciding
  | advances hr hp why go => exact done go.deciding
  | _ => rfl

/-- The broker replies to the call in flight. -/
theorem Move.replied_mem {call : Call} {fault : Option Fault}
    (m : Move c (.replied call fault) d batches calls) : call ∈ c.calls := by
  obtain ⟨r,trigger,size,rest,closing,failure,q,progress,hr,hp,-,-⟩ := m.of_replied
  rw [Consumer.calls_of_run hr,hp]
  exact List.mem_cons_self

theorem Move.processor (m : Move c x d batches calls) : d.processor = c.processor ∨
    ∃ id requeue f, x = .replied (.nack id requeue) (some f) ∧
      d.processor = c.processor.remember id := by
  cases m with
  | turns why go => exact .inl (go.processor.trans why.processor)
  | advances hr hp why go =>
    rw [go.processor]
    cases why with
    | judged walk => exact .inl rfl
    | replied res =>
      cases res with
      | nackFailed ordinary walk => exact .inr ⟨_,_,_,rfl,rfl⟩
      | _ => exact .inl rfl
  | leaves hr why out => exact .inl out.processor
  | _ => exact .inl rfl

/-- A cumulative ack is the only call of its plan. -/
def Consumer.Alone (c : Consumer τ) : Prop := ∀ n, .ack n true ∈ c.calls → c.calls = [.ack n true]

theorem Consumer.Alone.move (h : c.Alone) (m : Move c x d batches calls) : d.Alone := by
  intro n hn
  rcases m.calls_cases with hs | ⟨batch,a,-,-,hp⟩
  · have hc := h n (hs.mem hn)
    rw [hc] at hs
    rcases List.suffix_cons_iff.mp hs with hs | hs
    · exact hs
    · rw [List.suffix_nil.mp hs] at hn
      cases hn
  · rw [hp] at hn ⊢
    exact (warranted_of_mem_calls hn).2.2.2

end Baler
