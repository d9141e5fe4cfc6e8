import LeastPrivilege.Proofs.ClusterReplies
import LeastPrivilege.Proofs.SessionLookups
import Mathlib.Data.List.Permutation

/-!
Two readings of a pod. The broker keeps a pod as a document, and the cluster gives it as an object;
`PodObject.SpelledBy` says that a document spells an object, where a part that is missing of the
object is none in the document, or no member at all. Each part is read from the document as it is
taken from the object: the lemmas go through them from the inside to the outside, the list of owners
by induction, so the two readings come to one pod (`Pod.ofDocument_spelled`). A policy whose target
is found through the broker's row therefore selects as one whose target the cluster gives, whatever
is answered then (`Pod.readings_agree`).
-/

namespace LeastPrivilege

/-! ## Documents of objects -/

/-- The value spells what there may be, none where there is nothing. -/
inductive Value.Spelling {α : Type} (spells : α → Value → Prop) : Option α → Value → Prop
  | nothing : Spelling spells none .null
  | something {a : α} {v : Value} (h : spells a v) : Spelling spells (some a) v

/-- The value is this, as a value: a text, a flag, a map. -/
def Value.Is {α : Type} (form : α → Value) (a : α) (v : Value) : Prop :=
  v = form a

/-- A reference to an owner. One that does not control may leave that out. -/
structure OwnerEntry.SpelledBy (e : OwnerEntry) (v : Value) : Prop where
  whole : v.IsMap
  kind : v.get "kind" = .text e.kind
  name : v.get "name" = .text e.name
  controls : v.get "controller" = .bool e.controls ∨
    v.get "controller" = .null ∧ e.controls = false

/-- The status of a pod, as far as identities go. -/
structure PodStatus.SpelledBy (s : PodStatus) (v : Value) : Prop where
  whole : v.IsMap
  ip : Value.Spelling (Value.Is Value.text) s.ip (v.get "podIP")

/-- The specification of a pod. -/
structure PodSpec.SpelledBy (s : PodSpec) (v : Value) : Prop where
  whole : v.IsMap
  hostNetwork : Value.Spelling (Value.Is Value.bool) s.hostNetwork (v.get "hostNetwork")

/-- References to owners, in order. -/
def OwnerEntry.SpelledIn (entries : List OwnerEntry) (v : Value) : Prop :=
  ∃ refs, v = .list refs ∧ List.Forall₂ OwnerEntry.SpelledBy entries refs

/-- The document spells the pod. -/
structure PodObject.SpelledBy (o : PodObject) (doc : Value) : Prop where
  whole : doc.IsMap
  metadata : (doc.get "metadata").IsMap
  ns : Value.Spelling (Value.Is Value.text) o.ns ((doc.get "metadata").get "namespace")
  name : Value.Spelling (Value.Is Value.text) o.name ((doc.get "metadata").get "name")
  labels : Value.Spelling (Value.Is Value.map) o.labels
    ((doc.get "metadata").get "labels")
  owners : Value.Spelling OwnerEntry.SpelledIn o.owners
    ((doc.get "metadata").get "ownerReferences")
  status : Value.Spelling PodStatus.SpelledBy o.status (doc.get "status")
  spec : Value.Spelling PodSpec.SpelledBy o.spec (doc.get "spec")

/-! ## Reading parts -/

namespace Value

theorem orEmptyMap_of_isMap {v : Value} (h : v.IsMap) : v.orEmptyMap = v := by
  obtain ⟨entries, rfl⟩ := h
  cases entries with
  | nil => rfl
  | cons e rest => rfl

theorem fieldText_of_spelling {t : Option Text} {v : Value} (h : Spelling (Is text) t v) :
    v.fieldText = t.getD "" := by
  cases h with
  | nothing => rfl
  | something h =>
    rw [h]
    rfl

theorem entries_of_spelling {labels : Option Labels} {v : Value}
    (h : Spelling (Is map) labels v) :
    v.orEmptyMap.entries = .ok (labels.getD []) := by
  cases h with
  | nothing => rfl
  | @something labels _ h =>
    rw [h, orEmptyMap_of_isMap ⟨labels, rfl⟩]
    rfl

theorem isTruthy_of_spelling {b : Option Bool} {v : Value}
    (h : Spelling (Is bool) b v) : v.isTruthy = b.getD false := by
  cases h with
  | nothing => rfl
  | something h =>
    rw [h]
    rfl

/-- An address is read from the status, if there is one. -/
theorem status_of_spelling {s : Option PodStatus} {v : Value}
    (h : Spelling PodStatus.SpelledBy s v) :
    v.orEmptyMap.field "podIP" = .ok ((s.bind (·.ip)).getD "") := by
  cases h with
  | nothing => rfl
  | something h =>
    rw [orEmptyMap_of_isMap h.whole, field_eq h.whole, fieldText_of_spelling h.ip]
    rfl

/-- The host's network is used as the specification says, if there is one. -/
theorem spec_of_spelling {s : Option PodSpec} {v : Value} (h : Spelling PodSpec.SpelledBy s v) :
    ∃ w, v.orEmptyMap.member "hostNetwork" = .ok w ∧
      w.isTruthy = (s.bind (·.hostNetwork)).getD false := by
  cases h with
  | nothing => exact ⟨.null, rfl, rfl⟩
  | something h =>
    rw [orEmptyMap_of_isMap h.whole, member_eq h.whole]
    exact ⟨_, rfl, isTruthy_of_spelling h.hostNetwork⟩

end Value

/-! ## Owners -/

namespace OwnerEntry

theorem SpelledBy.isTruthy {e : OwnerEntry} {v : Value} (h : e.SpelledBy v) :
    (v.get "controller").isTruthy = e.controls := by
  rcases h.controls with hflag | ⟨hnull, hnot⟩
  · rw [hflag]
    rfl
  · rw [hnull, hnot]
    rfl

/-- The first reference that controls is found at its place in both lists. -/
theorem firstControlling_spelled {entries : List OwnerEntry} {refs : List Value}
    (h : List.Forall₂ SpelledBy entries refs) : ∃ found, firstControlling refs = .ok found ∧
      Option.Rel SpelledBy (entries.find? (·.controls)) found := by
  induction h with
  | nil => exact ⟨none, rfl, .none⟩
  | @cons e v entries refs hfirst _ ih =>
    have hmember : firstControlling (v :: refs) =
        if e.controls then .ok (some v) else firstControlling refs := by
      rw [firstControlling, Value.member_eq hfirst.whole, ← hfirst.isTruthy]
      rfl
    rw [hmember]
    cases hcontrols : e.controls with
    | true => exact ⟨some v, rfl, by simpa [hcontrols] using Option.Rel.some hfirst⟩
    | false => simpa [hcontrols] using ih

theorem ofReferences_spelled {owners : Option (List OwnerEntry)} {v : Value}
    (h : Value.Spelling SpelledIn owners v) :
    OwnerRef.ofReferences v = .ok (Cluster.ownerOf owners) := by
  cases h with
  | nothing => rfl
  | something h =>
    obtain ⟨refs, rfl, hrefs⟩ := h
    cases hrefs with
    | nil => rfl
    | @cons e first entries rest hfirst hrest =>
      obtain ⟨found, hfound, hrel⟩ := firstControlling_spelled (.cons hfirst hrest)
      -- What is chosen spells what the cluster's reading chooses.
      have hchosen : ∃ chosen, ((e :: entries).find? (·.controls)).or (e :: entries).head? =
          some chosen ∧ chosen.SpelledBy (found.getD first) := by
        generalize (e :: entries).find? (·.controls) = controlling at hrel
        cases hrel with
        | some h => exact ⟨_, rfl, h⟩
        | none => exact ⟨e, rfl, hfirst⟩
      obtain ⟨chosen, hor, hspelled⟩ := hchosen
      have hcluster : Cluster.ownerOf (some (e :: entries)) = some ⟨chosen.kind, chosen.name⟩ := by
        show Option.map _ (((e :: entries).find? (·.controls)).or (e :: entries).head?) = _
        rw [hor]
        rfl
      have hkind : (found.getD first).field "kind" = .ok chosen.kind := by
        rw [Value.field_eq hspelled.whole, hspelled.kind]
        rfl
      have hname : (found.getD first).field "name" = .ok chosen.name := by
        rw [Value.field_eq hspelled.whole, hspelled.name]
        rfl
      have htruthy : (Value.list (first :: rest)).isTruthy = true := rfl
      simp only [OwnerRef.ofReferences, htruthy, Value.items?, bind, Except.bind, hfound, hkind,
        hname, hcluster]
      rfl

end OwnerEntry

/-! ## Reading pods -/

/-- What is given instead of a text that a pod has: nothing, or the same text. -/
def Text.StandsFor (given own : Text) : Prop :=
  given = [] ∨ given = own

theorem Value.fieldUnless_own {given own key : Text} {v : Value} (h : given.StandsFor own)
    (hv : v.field key = .ok own) : fieldUnless given v key = .ok own := by
  unfold fieldUnless
  rcases h with rfl | rfl
  · exact hv
  · cases given with
    | nil => exact hv
    | cons c rest => rfl

/-- Both readings come to one pod. -/
theorem Pod.ofDocument_spelled {o : PodObject} {doc : Value} (h : o.SpelledBy doc)
    {name ns ip : Text} (hname : name.StandsFor (Cluster.podOf o).name)
    (hns : ns.StandsFor (Cluster.podOf o).ns) (hip : ip.StandsFor (Cluster.podOf o).ip) :
    Pod.ofDocument doc name ns ip = .ok (Cluster.podOf o) := by
  have hmetadata : doc.part "metadata" = .ok (doc.get "metadata") := by
    rw [Value.part_eq h.whole, Value.getPart, Value.orEmptyMap_of_isMap h.metadata]
  have hfield (key : Text) {t : Option Text}
      (hkey : Value.Spelling (Value.Is Value.text) t ((doc.get "metadata").get key)) :
      (doc.get "metadata").field key = .ok (t.getD "") := by
    rw [Value.field_eq h.metadata, Value.fieldText_of_spelling hkey]
  obtain ⟨host, hhost, htruthy⟩ := Value.spec_of_spelling h.spec
  have hns' := Value.fieldUnless_own hns (hfield _ h.ns)
  have hname' := Value.fieldUnless_own hname (hfield _ h.name)
  have hip' := Value.fieldUnless_own hip (Value.status_of_spelling h.status)
  have hlabels := Value.entries_of_spelling h.labels
  have howner := OwnerEntry.ofReferences_spelled h.owners
  simp only [Pod.ofDocument, bind, Except.bind, hmetadata, Value.part_eq h.whole,
    Value.part_eq h.metadata, Value.member_eq h.metadata, Value.getPart, hns', hname', hip',
    hlabels, howner, hhost, htruthy]
  rfl

/-- The row holds the pod: its document, and its name, namespace and address, unless these are left
to the document. -/
structure PodObject.RowOf (o : PodObject) (row : Value) : Prop where
  whole : row.IsMap
  doc : o.SpelledBy (row.get "pod_obj")
  name : (row.get "pod_name").fieldText.StandsFor (Cluster.podOf o).name
  ns : (row.get "pod_namespace").fieldText.StandsFor (Cluster.podOf o).ns
  ip : (row.get "pod_ip").fieldText.StandsFor (Cluster.podOf o).ip

theorem Pod.ofRow_spelled {o : PodObject} {row : Value} (h : o.RowOf row) :
    Pod.ofRow row = .ok (Cluster.podOf o) := by
  have hdoc : row.getPart "pod_obj" = row.get "pod_obj" := Value.orEmptyMap_of_isMap h.doc.whole
  have hpod := Pod.ofDocument_spelled h.doc h.name h.ns h.ip
  simp only [Pod.ofRow, bind, Except.bind, Value.part_eq h.whole, Value.field_eq h.whole, hdoc,
    hpod]

/-! ## Writing documents -/

/-- A value where there is one, none elsewhere. -/
def Value.ofOption {α : Type} (write : α → Value) : Option α → Value
  | none => .null
  | some a => write a

theorem Value.spelling_ofOption {α : Type} {spells : α → Value → Prop} (write : α → Value)
    (h : ∀ a, spells a (write a)) (a : Option α) : Spelling spells a (ofOption write a) := by
  cases a with
  | none => exact .nothing
  | some a => exact .something (h a)

theorem Value.spelling_is {α : Type} (form : α → Value) (a : Option α) :
    Spelling (Is form) a (ofOption form a) := by
  apply spelling_ofOption
  intro a
  exact rfl

/-- The document of a reference. -/
def OwnerEntry.document (e : OwnerEntry) : Value :=
  .map [(.text "kind", .text e.kind), (.text "name", .text e.name),
    (.text "controller", .bool e.controls)]

/-- The document of a pod, with all its members. -/
def PodObject.document (o : PodObject) : Value :=
  .map [
    (.text "metadata", .map [
      (.text "name", .ofOption Value.text o.name),
      (.text "namespace", .ofOption Value.text o.ns),
      (.text "labels", .ofOption Value.map o.labels),
      (.text "ownerReferences",
        .ofOption (fun es => .list (es.map OwnerEntry.document)) o.owners)]),
    (.text "spec", .ofOption
      (fun s => .map [(.text "hostNetwork", .ofOption Value.bool s.hostNetwork)]) o.spec),
    (.text "status", .ofOption (fun s => .map [(.text "phase", .ofOption Value.text s.phase),
      (.text "podIP", .ofOption Value.text s.ip)]) o.status)]

theorem OwnerEntry.spelledIn_documents (entries : List OwnerEntry) :
    SpelledIn entries (.list (entries.map document)) := by
  refine ⟨_, rfl, ?_⟩
  induction entries with
  | nil => exact .nil
  | cons e rest ih =>
    have here : e.SpelledBy e.document := ⟨⟨_, rfl⟩, rfl, rfl, .inl rfl⟩
    exact .cons here ih

/-- Every pod can be spelled. -/
theorem PodObject.spelledBy_document (o : PodObject) : o.SpelledBy o.document where
  whole := ⟨_, rfl⟩
  metadata := ⟨_, rfl⟩
  ns := Value.spelling_is _ o.ns
  name := Value.spelling_is _ o.name
  labels := Value.spelling_is _ o.labels
  owners := Value.spelling_ofOption _ OwnerEntry.spelledIn_documents o.owners
  status := by
    refine Value.spelling_ofOption _ (fun s => ⟨⟨_, rfl⟩, ?_⟩) o.status
    exact Value.spelling_is _ s.ip
  spec := by
    refine Value.spelling_ofOption _ (fun s => ⟨⟨_, rfl⟩, ?_⟩) o.spec
    exact Value.spelling_is _ s.hostNetwork

/-! ## Finding the target -/

/-- The inquiry asks one question, and what it gives is made of the reply. -/
def Inquiry.Replies {I : Interface} {α : Type} (x : Inquiry I α) (q : I.Question)
    (f : I.Answer q → α) : Prop :=
  ∀ log a, x.Ends log a ↔ ∃ reply, log = [⟨q, reply⟩] ∧ a = f reply

/-- What follows goes on with what was made of the reply. -/
theorem Inquiry.Replies.ends_bind {I : Interface} {α β : Type} {x : Inquiry I α} {q : I.Question}
    {f : I.Answer q → α} (h : x.Replies q f) {next : α → Inquiry I β} {reply : I.Answer q} {a : α}
    (ha : f reply = a) {rest : List (Exchange I)} {r : β} :
    (x >>= next).Ends (⟨q, reply⟩ :: rest) r ↔ (next a).Ends rest r := by
  rw [Inquiry.ends_bind]
  constructor
  · rintro ⟨first, given, later, hlog, hfirst, hlater⟩
    obtain ⟨reply', rfl, rfl⟩ := (h first given).mp hfirst
    cases hlog
    rw [ha] at hlater
    exact hlater
  · intro hnext
    exact ⟨[⟨q, reply⟩], a, rest, rfl, (h _ _).mpr ⟨reply, rfl, ha.symm⟩, hnext⟩

/-- An inquiry that is put to a larger interface asks its one question there. -/
theorem Inquiry.Replies.passed {I J : Interface} {α : Type} {x : Inquiry I α} {y : Inquiry J α}
    {pass : Exchange I → Exchange J}
    (hy : ∀ {log a}, y.Ends log a ↔ ∃ asked, x.Ends asked a ∧ log = asked.map pass)
    {q : I.Question} {f : I.Answer q → α} (h : x.Replies q f) (log : List (Exchange J)) (a : α) :
    y.Ends log a ↔ ∃ reply, log = [pass ⟨q, reply⟩] ∧ a = f reply := by
  rw [hy]
  constructor
  · rintro ⟨asked, hasked, rfl⟩
    obtain ⟨reply, rfl, rfl⟩ := (h _ _).mp hasked
    exact ⟨reply, rfl, rfl⟩
  · rintro ⟨reply, rfl, rfl⟩
    exact ⟨_, (h _ _).mpr ⟨reply, rfl, rfl⟩, rfl⟩

/-- A web that gives this reply whatever is fetched. -/
def Broker.alwaysReplying (reply : WebReply) : (q : WebQuestion) → q.Answer
  | .fetch .. => reply
  | .close => ()

/-- A request with a key that has an encoding is made once. -/
theorem Broker.replies_getResult {b : Broker} {r : BrokerRequest}
    (hkey : Text.halfRun? r.key = none) :
    (b.getResult r).outcome.Replies (.fetch (b.url r) b.timeout) (b.resultOf r) := by
  intro log x
  have made {log : List (Exchange web)} {x : Except Fault r.Result}
      (h : (b.getResult r).Ends log x) :
      ∃ reply, log = [⟨.fetch (b.url r) b.timeout, reply⟩] ∧ x = b.resultOf r reply := by
    rcases ends_getResult h with ⟨run, hrun, _, _⟩ | ⟨-, hreply⟩
    · exact nomatch hkey.symm.trans hrun
    · exact hreply
  constructor
  · exact made
  · rintro ⟨reply, rfl, rfl⟩
    -- Where every request has this reply, the one that is made has it.
    have h := Inquiry.ends_known (alwaysReplying reply) (b.getResult r).outcome
    obtain ⟨reply', hlog, hx⟩ := made h
    have hmem : (⟨.fetch (b.url r) b.timeout, reply'⟩ : Exchange web) ∈
        ((b.getResult r).outcome.known (alwaysReplying reply)).1 := by simp [hlog]
    have hreply : reply' = reply := Inquiry.answer_of_mem_known hmem
    rw [hlog, hx, hreply] at h
    exact h

theorem Cluster.replies_getPod (timeout : Double) (ns name : Text) :
    (getPod timeout ns name).outcome.Replies (.request timeout (.pod ns name))
      fun reply => (found (.readObject "pod" ns name) reply).map (Option.map podOf) := by
  intro log x
  refine ⟨ends_getPod, ?_⟩
  rintro ⟨reply, rfl, rfl⟩
  apply Attempt.ends_put_bind.mpr
  refine ⟨reply, [], rfl, Attempt.ends_bind.mpr ?_⟩
  dsimp only
  cases found (.readObject "pod" ns name) reply with
  | error fault => exact .inl ⟨fault, rfl, Attempt.ends_ofExcept.mpr ⟨rfl, rfl⟩⟩
  | ok object =>
    refine .inr ⟨[], object, [], rfl, Attempt.ends_ofExcept.mpr ⟨rfl, rfl⟩, ?_⟩
    exact Attempt.ends_pure.mpr ⟨rfl, rfl⟩

/-- The address at which the pod of a record is looked up. -/
def Record.ownIp (r : Record) : Text :=
  if r.targetIp.isEmpty then r.peerIp else r.targetIp

/-- Finds the target of a policy, and the labels by which the policy selects it. -/
def Policy.selectTarget (byName : Bool) (pod : Text) (records : List Record) (ns : Option Text) :
    Attempt lookups Labels :=
  findTarget byName pod records ns >>= Selector.labelsOfTarget

namespace Session

variable {b : Broker} {timeout : Double} {o : PodObject} {pod ns : Text} {byName : Bool}
  {rest : List (Exchange outside)} {x : Except Fault Labels}

theorem replies_podAt {ip : Text} (hkey : Text.halfRun? ip = none) :
    (answer b timeout (.podAt ip)).Replies (.inr (.inl (.fetch (b.url (.podAt ip)) b.timeout)))
      (b.resultOf (.podAt ip)) := by
  have hreplies := Broker.replies_getResult (b := b) (r := .podAt ip) hkey
  exact hreplies.passed ends_ofWeb

theorem replies_pod {ns name : Text} :
    (answer b timeout (.pod ns name)).Replies (.inl (.inl (.request timeout (.pod ns name))))
      fun reply => (Cluster.found (.readObject "pod" ns name) reply).map
        (Option.map Cluster.podOf) :=
  (Cluster.replies_getPod timeout ns name).passed ends_ofCluster

/-- A target that is looked up at an address is the pod of the row there. -/
theorem ends_selectTarget_recorded {first : Record} {records : List Record} {ns : Option Text}
    {body : Text} {row : Value} (hrow : o.RowOf row) (hbody : Json.read body = .ok row)
    (hkey : Text.halfRun? first.ownIp = none) :
    ((Policy.selectTarget byName pod (first :: records) ns).through (answer b timeout)).Ends
        (replied b (.podAt first.ownIp) (.response 200 body) :: rest) x ↔
      ((Selector.labelsOfTarget (Cluster.podOf o)).through (answer b timeout)).Ends rest x := by
  have hread : b.readReply (b.url (.podAt first.ownIp)) (.response 200 body) = .ok row := by
    simp [Broker.readReply, hbody]
  have hresult : b.resultOf (.podAt first.ownIp) (.response 200 body) =
      .ok (some (Cluster.podOf o)) := by
    have hpod := Pod.ofRow_spelled hrow
    obtain ⟨entries, hentries⟩ := hrow.whole
    rw [hentries] at hread hpod
    simp only [Broker.resultOf, hread, bind, Except.bind, BrokerRequest.read, Broker.rowOf, hpod]
    rfl
  exact (replies_podAt hkey).ends_bind hresult

/-- A target that the cluster is asked for is the pod that it gives. -/
theorem ends_selectTarget_idle (hns : ns ≠ []) :
    ((Policy.selectTarget true pod [] (some ns)).through (answer b timeout)).Ends
        (overCluster ⟨.request timeout (.pod ns pod), .ok o⟩ :: rest) x ↔
      ((Selector.labelsOfTarget (Cluster.podOf o)).through (answer b timeout)).Ends rest x := by
  obtain ⟨c, ns', rfl⟩ := List.exists_cons_of_ne_nil hns
  exact (replies_pod.ends_bind rfl).trans Inquiry.ends_tell_bind

end Session

open Session in
/-- Every pod has a document, and from each one the pod is read that the cluster's object gives: its
texts, labels and network in place, and as its owner the first that controls it, or else the first.
A target that is found through a row with such a document is selected as the one that the cluster
gives for the object, whatever is answered after that. -/
theorem Pod.readings_agree (o : PodObject) :
    (∃ doc, o.SpelledBy doc) ∧
    (∀ doc, o.SpelledBy doc → Pod.ofDocument doc "" "" "" = .ok (Cluster.podOf o)) ∧
    Cluster.PodShown o (Cluster.podOf o) ∧
    ∀ row, o.RowOf row → Pod.ofRow row = .ok (Cluster.podOf o) ∧
      ∀ (b : Broker) (timeout : Double) (byName : Bool) (pod body ns : Text) (first : Record)
        (records : List Record) (given : Option Text), Json.read body = .ok row →
        Text.halfRun? first.ownIp = none → ns ≠ [] →
        ∀ (rest : List (Exchange outside)) (x : Except Fault Labels),
          ((Policy.selectTarget byName pod (first :: records) given).through
              (answer b timeout)).Ends
            (replied b (.podAt first.ownIp) (.response 200 body) :: rest) x ↔
          ((Policy.selectTarget true pod [] (some ns)).through (answer b timeout)).Ends
            (overCluster ⟨.request timeout (.pod ns pod), .ok o⟩ :: rest) x := by
  refine ⟨⟨_, o.spelledBy_document⟩, ?_, Cluster.podShown_iff.mpr rfl, ?_⟩
  · intro doc hdoc
    exact Pod.ofDocument_spelled hdoc (.inl rfl) (.inl rfl) (.inl rfl)
  · intro row hrow
    refine ⟨Pod.ofRow_spelled hrow, ?_⟩
    intro b timeout byName pod body ns first records given hbody hkey hns rest x
    rw [ends_selectTarget_recorded hrow hbody hkey, ends_selectTarget_idle hns]

/-- A pod without a status or a specification. The second of its owners controls it. -/
def ownedTwice : PodObject where
  ns := some "shop"
  name := some "web"
  labels := some [label "app" "web"]
  owners := some [⟨"ReplicaSet", "old", false⟩, ⟨"StatefulSet", "db", true⟩]

/-- A row of that pod. Its document leaves out that the first owner does not control it, and has a
status that is none and no specification. -/
def ownedTwiceRow : Value :=
  .map [(.text "pod_name", .text "web"), (.text "pod_obj", .map [
    (.text "metadata", .map [(.text "name", .text "web"), (.text "namespace", .text "shop"),
      (.text "labels", .map [label "app" "web"]),
      (.text "ownerReferences", .list [
        .map [(.text "kind", .text "ReplicaSet"), (.text "name", .text "old")],
        .map [(.text "kind", .text "StatefulSet"), (.text "name", .text "db"),
          (.text "controller", .bool true)]])]),
    (.text "status", .null)])]

/-- The body of a reply with that row. -/
def ownedTwiceBody : Text :=
  "\x7b\"pod_name\": \"web\", \"pod_obj\": \x7b\"metadata\": \x7b\"name\": \"web\", " ++
    "\"namespace\": \"shop\", \"labels\": \x7b\"app\": \"web\"\x7d, \"ownerReferences\": " ++
    "[\x7b\"kind\": \"ReplicaSet\", \"name\": \"old\"\x7d, " ++
    "\x7b\"kind\": \"StatefulSet\", \"name\": \"db\", \"controller\": true\x7d]\x7d, " ++
    "\"status\": null\x7d\x7d"

theorem read_ownedTwiceBody : Json.read ownedTwiceBody = .ok ownedTwiceRow := by
  cbv

theorem ownedTwice_rowOf : ownedTwice.RowOf ownedTwiceRow where
  whole := ⟨_, rfl⟩
  doc := {
    whole := ⟨_, rfl⟩
    metadata := ⟨_, rfl⟩
    ns := .something rfl
    name := .something rfl
    labels := .something rfl
    owners := by
      refine .something ⟨_, rfl, .cons ?_ (.cons ?_ .nil)⟩
      · exact ⟨⟨_, rfl⟩, rfl, rfl, .inr ⟨rfl, rfl⟩⟩
      · exact ⟨⟨_, rfl⟩, rfl, rfl, .inl rfl⟩
    status := .nothing
    spec := .nothing }
  name := .inr rfl
  ns := .inl rfl
  ip := .inl rfl

open Session in
/-- Both readings find the owner that comes second, and both ways lead to the same labels. -/
theorem Pod.readings_agree_ownedTwice :
    ownedTwice.RowOf ownedTwiceRow ∧
    Pod.ofRow ownedTwiceRow = .ok {
      ns := "shop", name := "web", labels := [label "app" "web"],
      owner := some ⟨"StatefulSet", "db"⟩ } ∧
    ∀ (rest : List (Exchange outside)) (x : Except Fault Labels),
      ((Policy.selectTarget true "web" [{ targetIp := "10.0.0.9" }] none).through
          (answer sampleBroker (.ofNat 10))).Ends
        (replied sampleBroker (.podAt "10.0.0.9") (.response 200 ownedTwiceBody) :: rest) x ↔
      ((Policy.selectTarget true "web" [] (some "shop")).through
          (answer sampleBroker (.ofNat 10))).Ends
        (overCluster ⟨.request (.ofNat 10) (.pod "shop" "web"), .ok ownedTwice⟩ :: rest) x := by
  obtain ⟨-, -, -, hrows⟩ := readings_agree ownedTwice
  obtain ⟨hread, hselect⟩ := hrows ownedTwiceRow ownedTwice_rowOf
  refine ⟨ownedTwice_rowOf, hread, ?_⟩
  exact hselect sampleBroker (.ofNat 10) true "web" ownedTwiceBody "shop"
    { targetIp := "10.0.0.9" } [] none read_ownedTwiceBody (by decide) (by decide)

end LeastPrivilege
