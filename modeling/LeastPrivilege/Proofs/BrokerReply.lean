import LeastPrivilege.Broker
import LeastPrivilege.Proofs.Document
import LeastPrivilege.Proofs.Ending

/-!
Replies of the broker. A request ends with a value or with a fault of the broker's own for every
reply that its reader is prepared for (`BrokerRequest.Expects`): for any status and any text that is
no JSON, and for a document whose parts have the shapes that are asked of them. For every other
reply, and for a key that has no encoding, a fault of another kind escapes, so the condition is
exact (`Broker.getResult_reported`).
-/

namespace LeastPrivilege

/-- A fault, if there is one, is the broker's own. -/
def Reported {α : Type} (x : Except Fault α) : Prop :=
  ∀ fault, x = .error fault → ∃ f, fault = .broker f

theorem reported_ok {α : Type} (a : α) : Reported (.ok a) := nofun

theorem reported_of_ok {α : Type} {x : Except Fault α} (h : ∃ a, x = .ok a) : Reported x := by
  obtain ⟨a, rfl⟩ := h
  exact reported_ok a

theorem Settles.reported_iff {α : Type} {shape : Prop} {x : Except Fault α}
    (h : Settles shape x) : Reported x ↔ shape := by
  cases h with
  | ok a h => exact ⟨fun _ => h, fun _ => reported_ok a⟩
  | @error fault hfault h =>
    constructor
    · intro hreported
      obtain ⟨f, rfl⟩ := hreported fault rfl
      cases hfault
    · exact fun hshape => absurd hshape h

/-- Steps that all succeed, with what is wanted, succeed together, with what is wanted. -/
theorem exists_mapM_ok_forall {α β : Type} {f : α → Except Fault β} {P : β → Prop} :
    ∀ {l : List α}, (∀ a ∈ l, ∃ b, f a = .ok b ∧ P b) → ∃ bs, l.mapM f = .ok bs ∧ ∀ b ∈ bs, P b
  | [], _ => ⟨[], rfl, nofun⟩
  | a :: l, h => by
    obtain ⟨ha, hl⟩ := List.forall_mem_cons.mp h
    obtain ⟨b, hb, hP⟩ := ha
    obtain ⟨bs, hbs, hall⟩ := exists_mapM_ok_forall hl
    refine ⟨b :: bs, ?_, List.forall_mem_cons.mpr ⟨hP, hall⟩⟩
    rw [List.mapM_cons, hb, hbs]
    rfl

theorem exists_mapM_ok {α β : Type} {f : α → Except Fault β} {l : List α}
    (h : ∀ a ∈ l, ∃ b, f a = .ok b) : ∃ bs, l.mapM f = .ok bs := by
  have htrue : ∀ a ∈ l, ∃ b, f a = .ok b ∧ True := by
    simpa only [and_true] using h
  obtain ⟨bs, hbs, -⟩ := exists_mapM_ok_forall htrue
  exact ⟨bs, hbs⟩

namespace BrokerRequest

/-- What a request gives. -/
def Result : BrokerRequest → Type
  | flows _ => List Record
  | podAt _ => Option Pod
  | serviceAt _ => Option Service
  | calls _ => Option RecordedCalls

/-- What a request gives where the broker holds nothing. -/
def nothing : (r : BrokerRequest) → r.Result
  | flows _ => ([] : List Record)
  | podAt _ => (none : Option Pod)
  | serviceAt _ => (none : Option Service)
  | calls _ => (none : Option RecordedCalls)

/-- Reads what a request gives from a document. -/
def read : (r : BrokerRequest) → Value → Except Fault r.Result
  | flows pod => Broker.flowsOf pod
  | podAt _ => Broker.rowOf Pod.ofRow
  | serviceAt _ => Broker.rowOf Service.ofRow
  | calls _ => Broker.callsOf

/-- The shape that a request asks of a document. It asks nothing of a list of flows, and nothing of
what is no row. -/
def Shape : BrokerRequest → Value → Prop
  | flows _, _ => True
  | podAt _, v => v.IsMap → Pod.RowShape v
  | serviceAt _, v => v.IsMap → Service.RowShape v
  | calls _, v => ∀ row rest, v = .list (row :: rest) → RecordedCalls.RowShape row

/-- The reader of a request is prepared for a reply: it has another status than that of a document,
or no JSON, or a document of the shape that is asked for, which is not nested too deeply. -/
def Expects (r : BrokerRequest) : WebReply → Prop
  | .timedOut | .unreachable _ => True
  | .response status body => status = 200 → match Json.read body with
    | .ok v => r.Shape v
    | .error failure => failure.cause ≠ .tooDeep

theorem flowsOf_reported (pod : Text) (v : Value) : Reported (Broker.flowsOf pod v) := by
  unfold Broker.flowsOf
  split
  · exact reported_ok []
  · rename_i rows
    refine reported_of_ok (exists_mapM_ok fun row hrow => ?_)
    refine (Record.ofRow_settles row).isOk_iff.mpr ?_
    cases row with
    | map es => exact ⟨es, rfl⟩
    | _ => cases (List.mem_filter.mp hrow).2
  · exact fun fault h => ⟨_, (Except.error.inj h).symm⟩

theorem rowOf_reported_iff {α : Type} {read : Value → Except Fault α} {shape : Value → Prop}
    (hread : ∀ row, Settles (shape row) (read row)) (v : Value) :
    Reported (Broker.rowOf read v) ↔ (v.IsMap → shape v) := by
  cases v with
  | map es =>
    rw [Broker.rowOf, (hread (.map es)).map.reported_iff]
    exact ⟨fun h _ => h, fun h => h ⟨es, rfl⟩⟩
  | scalar s => exact ⟨fun _ h => absurd h (Value.not_isMap_scalar s), fun _ => reported_ok none⟩
  | list items =>
    exact ⟨fun _ h => absurd h (Value.not_isMap_list items), fun _ => reported_ok none⟩

/-- A document is read without another fault than the broker's own exactly if it has the shape that
is asked for. -/
theorem read_reported_iff (r : BrokerRequest) (v : Value) : Reported (r.read v) ↔ r.Shape v := by
  cases r with
  | flows pod => exact ⟨fun _ => trivial, fun _ => flowsOf_reported pod v⟩
  | podAt ip => exact rowOf_reported_iff Pod.ofRow_settles v
  | serviceAt ip => exact rowOf_reported_iff Service.ofRow_settles v
  | calls pod =>
    show Reported (Broker.callsOf v) ↔ _
    unfold Broker.callsOf
    split
    · rename_i row rest
      rw [(RecordedCalls.ofRow_settles row).map.reported_iff]
      constructor
      · intro h row' rest' e
        cases e
        exact h
      · exact fun h => h row rest rfl
    · rename_i hrow
      exact ⟨fun _ row rest e => absurd e (hrow row rest), fun _ => reported_ok none⟩

theorem read_null (r : BrokerRequest) : r.read .null = .ok r.nothing := by
  cases r <;> rfl

end BrokerRequest

namespace Broker

variable {b : Broker} {r : BrokerRequest} {log : List (Exchange web)}

/-- What a request gives for a reply. -/
def resultOf (b : Broker) (r : BrokerRequest) (reply : WebReply) : Except Fault r.Result :=
  b.readReply (b.url r) reply >>= r.read

theorem resultOf_reported_iff (reply : WebReply) :
    Reported (b.resultOf r reply) ↔ r.Expects reply := by
  cases reply with
  | timedOut => exact ⟨fun _ => trivial, fun _ fault h => ⟨_, (Except.error.inj h).symm⟩⟩
  | unreachable reason => exact ⟨fun _ => trivial, fun _ fault h => ⟨_, (Except.error.inj h).symm⟩⟩
  | response status body =>
    unfold resultOf readReply BrokerRequest.Expects
    dsimp only
    by_cases hnone : status = 404
    · rw [if_pos hnone]
      have hnot : status ≠ 200 := fun e => absurd (hnone.symm.trans e) (by decide)
      refine ⟨fun _ h => absurd h hnot, fun _ => ?_⟩
      show Reported (r.read .null)
      rw [r.read_null]
      exact reported_ok r.nothing
    · rw [if_neg hnone]
      by_cases hok : status = 200
      · rw [if_neg (not_not_intro hok)]
        cases Json.read body with
        | ok v => exact ⟨fun h _ => (r.read_reported_iff v).mp h,
            fun h => (r.read_reported_iff v).mpr (h hok)⟩
        | error failure =>
          obtain ⟨cause, left⟩ := failure
          cases cause with
          | tooDeep =>
            constructor
            · intro h
              obtain ⟨f, e⟩ := h .tooDeep rfl
              cases e
            · exact fun h => absurd rfl (h hok)
          | _ => exact ⟨fun _ _ => nofun, fun _ fault h => ⟨_, (Except.error.inj h).symm⟩⟩
      · rw [if_pos hok]
        exact ⟨fun _ h => absurd h hok, fun _ fault h => ⟨_, (Except.error.inj h).symm⟩⟩

/-- What the broker does not hold is nothing. -/
theorem resultOf_notFound (b : Broker) (r : BrokerRequest) (body : Text) :
    b.resultOf r (.response 404 body) = .ok r.nothing := by
  show r.read .null = _
  exact r.read_null

/-- A value is null where the broker holds nothing, and otherwise what the reply spells. -/
theorem readReply_ok {url : Text} {reply : WebReply} {v : Value}
    (h : b.readReply url reply = .ok v) :
    v = .null ∨ ∃ body, reply = .response 200 body ∧ Json.read body = .ok v := by
  unfold readReply at h
  split at h
  · cases h
  · cases h
  · rename_i status body
    split at h
    · exact .inl (Except.ok.inj h).symm
    split at h
    · cases h
    rename_i hstatus
    obtain rfl : status = 200 := Decidable.not_not.mp hstatus
    split at h
    · rename_i hread
      cases h
      exact .inr ⟨body, rfl, hread⟩
    · cases h
    · cases h

/-- Calls are those of the first row. -/
theorem callsOf_some {v : Value} {calls : RecordedCalls} (h : callsOf v = .ok (some calls)) :
    ∃ row rest, v = .list (row :: rest) ∧ RecordedCalls.ofRow row = .ok calls := by
  unfold callsOf at h
  split at h
  · rename_i row rest
    cases hrow : RecordedCalls.ofRow row with
    | ok found =>
      rw [hrow] at h
      cases h
      exact ⟨row, rest, rfl, hrow⟩
    | error fault =>
      rw [hrow] at h
      cases h
  · cases h

/-- Calls are read from the first row of a list that the broker gave. -/
theorem resultOf_calls {pod : Text} {reply : WebReply} {calls : RecordedCalls}
    (h : b.resultOf (.calls pod) reply = .ok (some calls)) : ∃ body row rest,
      reply = .response 200 body ∧ Json.read body = .ok (.list (row :: rest)) ∧
      RecordedCalls.ofRow row = .ok calls := by
  cases hread : b.readReply (b.url (.calls pod)) reply with
  | error fault =>
    rw [resultOf, hread] at h
    cases h
  | ok v =>
    rw [resultOf, hread] at h
    obtain ⟨row, rest, rfl, hrow⟩ := callsOf_some h
    rcases readReply_ok hread with hnull | ⟨body, rfl, hjson⟩
    · cases hnull
    · exact ⟨body, row, rest, rfl, hjson, hrow⟩

theorem ends_fetch {x : Except Fault Value} (h : (b.fetch r).Ends log x) :
    (∃ run, Text.halfRun? r.key = some run ∧ log = [] ∧ x = .error (.value (.halves run))) ∨
    (Text.halfRun? r.key = none ∧ ∃ reply, log = [⟨.fetch (b.url r) b.timeout, reply⟩] ∧
      x = b.readReply (b.url r) reply) := by
  unfold fetch checkKey at h
  cases hkey : Text.halfRun? r.key with
  | some run =>
    rw [hkey] at h
    rcases Attempt.ends_bind.mp h with ⟨fault, rfl, hfault⟩ | ⟨_, u, _, _, hu, -⟩
    · obtain ⟨rfl, e⟩ := Attempt.ends_ofExcept.mp hfault
      cases e
      exact .inl ⟨run, rfl, rfl, rfl⟩
    · exact nomatch (Attempt.ends_ofExcept.mp hu).2
  | none =>
    rw [hkey] at h
    rcases Attempt.ends_bind.mp h with ⟨fault, rfl, hfault⟩ | ⟨_, u, log, rfl, hu, hrest⟩
    · exact nomatch (Attempt.ends_ofExcept.mp hfault).2
    · obtain ⟨rfl, -⟩ := Attempt.ends_ofExcept.mp hu
      obtain ⟨reply, log, rfl, hreply⟩ := Attempt.ends_put_bind.mp hrest
      have hread : log = [] ∧ x = b.readReply (b.url r) reply := by
        by_cases hnone : holdsNone reply = true
        · rw [if_pos hnone, Attempt.ends_tell_bind] at hreply
          exact Attempt.ends_ofExcept.mp hreply
        · rw [if_neg hnone] at hreply
          exact Attempt.ends_ofExcept.mp hreply
      obtain ⟨rfl, rfl⟩ := hread
      exact .inr ⟨rfl, reply, rfl, rfl⟩

/-- The request, with what it gives. -/
def getResult (b : Broker) : (r : BrokerRequest) → Attempt web r.Result
  | .flows pod => b.getFlows pod
  | .podAt ip => b.getPodAt ip
  | .serviceAt ip => b.getServiceAt ip
  | .calls pod => b.getCalls pod

/-- Nothing is asked after the document. -/
theorem ends_fetch_bind {f : Value → Attempt web r.Result}
    (hf : ∀ document rest x, (f document).Ends rest x → rest = [] ∧ x = r.read document)
    {x : Except Fault r.Result} (h : (b.fetch r >>= f).Ends log x) :
    ∃ y, (b.fetch r).Ends log y ∧ x = y >>= r.read := by
  rcases Attempt.ends_bind.mp h with ⟨fault, rfl, hfault⟩ | ⟨_, document, _, rfl, hfirst, hrest⟩
  · exact ⟨_, hfault, rfl⟩
  · obtain ⟨rfl, rfl⟩ := hf _ _ _ hrest
    exact ⟨_, by rwa [List.append_nil], rfl⟩

theorem ends_getResult_fetch {x : Except Fault r.Result} (h : (b.getResult r).Ends log x) :
    ∃ y, (b.fetch r).Ends log y ∧ x = y >>= r.read := by
  cases r with
  | flows pod =>
    refine ends_fetch_bind (fun document _ x hrest => ?_) h
    rcases Attempt.ends_bind.mp hrest with
      ⟨fault, rfl, hfault⟩ | ⟨_, records, rest, rfl, hread, hdone⟩
    · obtain ⟨rfl, e⟩ := Attempt.ends_ofExcept.mp hfault
      exact ⟨rfl, e⟩
    · obtain ⟨rfl, e⟩ := Attempt.ends_ofExcept.mp hread
      have hrecords : rest = [] ∧ x = .ok records := by
        by_cases hnull : (!document.isNull) = true
        · rw [if_pos hnull] at hdone
          exact Attempt.ends_tell_pure.mp hdone
        · rw [if_neg hnull] at hdone
          exact Attempt.ends_pure.mp hdone
      obtain ⟨rfl, rfl⟩ := hrecords
      exact ⟨rfl, e⟩
  | podAt ip => exact ends_fetch_bind (fun _ _ _ hrest => Attempt.ends_ofExcept.mp hrest) h
  | serviceAt ip => exact ends_fetch_bind (fun _ _ _ hrest => Attempt.ends_ofExcept.mp hrest) h
  | calls pod => exact ends_fetch_bind (fun _ _ _ hrest => Attempt.ends_ofExcept.mp hrest) h

/-- A request ends before it is made, for its key, or with what it gives for the reply. -/
theorem ends_getResult {x : Except Fault r.Result} (h : (b.getResult r).Ends log x) :
    (∃ run, Text.halfRun? r.key = some run ∧ log = [] ∧ x = .error (.value (.halves run))) ∨
    (Text.halfRun? r.key = none ∧ ∃ reply, log = [⟨.fetch (b.url r) b.timeout, reply⟩] ∧
      x = b.resultOf r reply) := by
  obtain ⟨y, hy, rfl⟩ := ends_getResult_fetch h
  rcases ends_fetch hy with ⟨run, hkey, rfl, rfl⟩ | ⟨hkey, reply, rfl, rfl⟩
  · exact .inl ⟨run, hkey, rfl, rfl⟩
  · exact .inr ⟨hkey, reply, rfl, rfl⟩

/-- A request is made once, if its key has an encoding. It ends with a value or with a fault of the
broker's own exactly if it is made and its reader is prepared for the reply, and with nothing for
what the broker does not hold. -/
theorem getResult_reported (b : Broker) (r : BrokerRequest) (log : List (Exchange web))
    (x : Except Fault r.Result) (h : (b.getResult r).Ends log x) :
    (Text.halfRun? r.key = none → ∃ reply, log = [⟨.fetch (b.url r) b.timeout, reply⟩]) ∧
    (Reported x ↔ Text.halfRun? r.key = none ∧
      ∀ reply, ⟨.fetch (b.url r) b.timeout, reply⟩ ∈ log → r.Expects reply) ∧
    (∀ body, ⟨.fetch (b.url r) b.timeout, .response 404 body⟩ ∈ log → x = .ok r.nothing) := by
  rcases ends_getResult h with ⟨run, hkey, rfl, rfl⟩ | ⟨hkey, reply, rfl, rfl⟩
  · have hno : Text.halfRun? r.key ≠ none := fun hnone => nomatch hkey.symm.trans hnone
    refine ⟨fun hnone => absurd hnone hno, ⟨fun hreported => ?_, fun hboth => ?_⟩, nofun⟩
    · obtain ⟨f, e⟩ := hreported _ rfl
      cases e
    · exact absurd hboth.1 hno
  · have honly : ∀ reply' : WebReply, (⟨.fetch (b.url r) b.timeout, reply'⟩ : Exchange web) ∈
        [(⟨.fetch (b.url r) b.timeout, reply⟩ : Exchange web)] → reply' = reply := by
      intro reply' hmem
      cases List.mem_singleton.mp hmem
      rfl
    refine ⟨fun _ => ⟨reply, rfl⟩, ?_, fun body hmem => ?_⟩
    · refine (resultOf_reported_iff reply).trans ⟨fun hexpects => ?_, fun hboth => ?_⟩
      · refine ⟨hkey, fun reply' hmem => ?_⟩
        rw [honly reply' hmem]
        exact hexpects
      · exact hboth.2 reply (List.mem_singleton.mpr rfl)
    · cases honly _ hmem
      exact resultOf_notFound b r body

end Broker

end LeastPrivilege
