import LeastPrivilege.Command.Session
import LeastPrivilege.Proofs.BrokerReply
import LeastPrivilege.Proofs.ClusterAccess
import LeastPrivilege.Proofs.PeerLookups
import LeastPrivilege.Proofs.StillOutside
import Mathlib.Data.List.Basic

/-!
Lookups of a session: addresses are looked up at the broker, controllers in the cluster. The cluster
only ever fails by a fault of the program's own, and so does the broker where its readers are
prepared for the reply. Resolution over a session therefore gives a peer exactly if the address has
an encoding and the readers are prepared for all replies about it (`resolve_ok_iff_expects`).
-/

namespace LeastPrivilege

theorem Fault.isOperational_of_isOfShape {fault : Fault} (h : fault.isOfShape = true) :
    fault.isOperational = false := by
  cases fault with
  | shape f => rfl
  | value f =>
    cases f with
    | notAPair index length => rfl
    | _ => cases h
  | _ => cases h

/-! ## Faults of a request -/

/-- A fault that is not the broker's own is none of the program's own. -/
def Sorted (fault : Fault) : Prop :=
  (∃ f, fault = .broker f) ∨ fault.isOperational = false

theorem Settles.sorted {α : Type} {shape : Prop} {x : Except Fault α} (h : Settles shape x)
    {fault : Fault} (hx : x = .error fault) : Sorted fault := by
  cases h with
  | ok a _ => cases hx
  | error hfault _ =>
    cases hx
    exact .inr (Fault.isOperational_of_isOfShape hfault)

namespace BrokerRequest

theorem rowOf_sorted {α : Type} {read : Value → Except Fault α} {shape : Value → Prop}
    (hread : ∀ row, Settles (shape row) (read row)) {v : Value} {fault : Fault}
    (h : Broker.rowOf read v = .error fault) : Sorted fault := by
  cases v with
  | map es => exact (hread (.map es)).map.sorted h
  | scalar s => cases h
  | list items => cases h

theorem read_sorted {r : BrokerRequest} {v : Value} {fault : Fault}
    (h : r.read v = .error fault) : Sorted fault := by
  cases r with
  | flows pod => exact .inl (flowsOf_reported pod v fault h)
  | podAt ip => exact rowOf_sorted Pod.ofRow_settles h
  | serviceAt ip => exact rowOf_sorted Service.ofRow_settles h
  | calls pod =>
    change Broker.callsOf v = .error fault at h
    unfold Broker.callsOf at h
    split at h
    · rename_i row rest
      exact (RecordedCalls.ofRow_settles row).map.sorted h
    · cases h

end BrokerRequest

namespace Broker

variable {b : Broker} {r : BrokerRequest}

theorem readReply_sorted {url : Text} {reply : WebReply} {fault : Fault}
    (h : b.readReply url reply = .error fault) : Sorted fault := by
  cases reply with
  | timedOut =>
    cases h
    exact .inl ⟨_, rfl⟩
  | unreachable reason =>
    cases h
    exact .inl ⟨_, rfl⟩
  | response status body =>
    unfold readReply at h
    dsimp only at h
    split at h
    · cases h
    · split at h
      · cases h
        exact .inl ⟨_, rfl⟩
      · split at h
        · cases h
        · cases h
          exact .inr rfl
        · cases h
          exact .inl ⟨_, rfl⟩

theorem resultOf_sorted {reply : WebReply} {fault : Fault}
    (h : b.resultOf r reply = .error fault) : Sorted fault := by
  unfold resultOf at h
  cases hdocument : b.readReply (b.url r) reply with
  | error found =>
    rw [hdocument] at h
    cases h
    exact readReply_sorted hdocument
  | ok document =>
    rw [hdocument] at h
    exact BrokerRequest.read_sorted h

/-- The faults of a request are the program's own exactly if they are the broker's. -/
theorem getResult_operational_iff {log : List (Exchange web)} {x : Except Fault r.Result}
    (h : (b.getResult r).Ends log x) :
    (∀ fault, x = .error fault → fault.isOperational = true) ↔ Reported x := by
  have hsorted : ∀ fault, x = .error fault → Sorted fault := by
    intro fault hfault
    rcases ends_getResult h with ⟨run, _, _, hx⟩ | ⟨_, reply, _, hx⟩
    · cases hx.symm.trans hfault
      exact .inr rfl
    · exact resultOf_sorted (hx.symm.trans hfault)
  constructor
  · intro hown fault hfault
    cases hsorted fault hfault with
    | inl hbroker => exact hbroker
    | inr hnot => exact nomatch hnot.symm.trans (hown fault hfault)
  · intro hreported fault hfault
    obtain ⟨f, rfl⟩ := hreported fault hfault
    rfl

/-- No request for the service of an address is one for a pod. -/
theorem url_service_ne_pod (b : Broker) (ip ip' : Text) :
    b.url (.serviceAt ip) ≠ b.url (.podAt ip') := by
  intro h
  have hpath : (BrokerRequest.serviceAt ip).path = (BrokerRequest.podAt ip').path :=
    List.append_cancel_left h
  have hfront : [CodePoint.char '/', .char 's'] = [.char '/', .char 'p'] :=
    congrArg (List.take 2) hpath
  exact absurd hfront (by decide)

end Broker

/-! ## Answers of a session -/

namespace Session

variable {α : Type} {b : Broker} {r : BrokerRequest} {log : List (Exchange outside)}

/-- An exchange with the web, among all those of a session. -/
def overWeb (e : Exchange web) : Exchange outside :=
  (e.inLeft : Exchange (web.or outlet)).inRight

theorem overWeb_injective : Function.Injective overWeb := by
  intro e e' h
  have hright := congrArg Exchange.right? h
  simp only [overWeb, Exchange.right?_inRight, Option.some.injEq] at hright
  have hleft := congrArg Exchange.left? hright
  simpa only [Exchange.left?_inLeft, Option.some.injEq] using hleft

theorem ends_ofWeb {x : Attempt web α} {y : Except Fault α} :
    (ofWeb x).Ends log y ↔ ∃ asked, x.Ends asked y ∧ log = asked.map overWeb := by
  unfold ofWeb
  simp only [Attempt.ends_inRight, Attempt.ends_inLeft]
  constructor
  · intro ⟨_, ⟨asked, hx, e⟩, hlog⟩
    exact ⟨asked, hx, by rw [hlog, e, List.map_map]; rfl⟩
  · intro ⟨asked, hx, hlog⟩
    exact ⟨_, ⟨asked, hx, rfl⟩, by rw [hlog, List.map_map]; rfl⟩

/-- An exchange with the cluster, among all those of a session. -/
def overCluster (e : Exchange cluster) : Exchange outside :=
  (e.inLeft : Exchange tunnelWork).inLeft

theorem ends_ofCluster {x : Attempt cluster α} {y : Except Fault α} :
    (ofCluster x).Ends log y ↔ ∃ asked, x.Ends asked y ∧ log = asked.map overCluster := by
  unfold ofCluster
  simp only [Attempt.ends_inLeft]
  constructor
  · intro ⟨_, ⟨asked, hx, e⟩, hlog⟩
    exact ⟨asked, hx, by rw [hlog, e, List.map_map]; rfl⟩
  · intro ⟨asked, hx, hlog⟩
    exact ⟨_, ⟨asked, hx, rfl⟩, by rw [hlog, List.map_map]; rfl⟩

/-- An exchange with the outlet, among all those of a session. -/
def overOutlet (e : Exchange outlet) : Exchange outside :=
  (e.inRight : Exchange (web.or outlet)).inRight

theorem ends_ofOutlet {x : Attempt outlet α} {y : Except Fault α} :
    (ofOutlet x).Ends log y ↔ ∃ asked, x.Ends asked y ∧ log = asked.map overOutlet := by
  unfold ofOutlet
  simp only [Attempt.ends_inRight]
  constructor
  · intro ⟨_, ⟨asked, hx, e⟩, hlog⟩
    exact ⟨asked, hx, by rw [hlog, e, List.map_map]; rfl⟩
  · intro ⟨asked, hx, hlog⟩
    exact ⟨_, ⟨asked, hx, rfl⟩, by rw [hlog, List.map_map]; rfl⟩

/-- Nothing that is asked of the cluster is asked of the web. -/
theorem overWeb_not_mem_map (asked : List (Exchange cluster)) (e : Exchange web) :
    overWeb e ∉ asked.map overCluster := by
  intro he
  obtain ⟨d, -, hd⟩ := List.mem_map.mp he
  cases congrArg Exchange.right? hd

/-- The exchange of a request for a reply. -/
def replied (b : Broker) (r : BrokerRequest) (reply : WebReply) : Exchange outside :=
  overWeb ⟨.fetch (b.url r) b.timeout, reply⟩

/-- A request asks for one reply at most. -/
theorem exists_replied {x : Except Fault r.Result} (h : (ofWeb (b.getResult r)).Ends log x)
    {e : Exchange outside} (he : e ∈ log) : ∃ reply, e = replied b r reply := by
  obtain ⟨asked, hx, rfl⟩ := ends_ofWeb.mp h
  obtain ⟨d, hd, rfl⟩ := List.mem_map.mp he
  rcases Broker.ends_getResult hx with ⟨_, _, rfl, _⟩ | ⟨_, reply, rfl, _⟩
  · exact absurd hd List.not_mem_nil
  · exact ⟨reply, by rw [List.mem_singleton.mp hd]; rfl⟩

/-- A request has no fault but the program's own exactly if its key has an encoding and its reader
is prepared for the reply. -/
theorem ofWeb_operational_iff {x : Except Fault r.Result}
    (h : (ofWeb (b.getResult r)).Ends log x) :
    (∀ fault, x = .error fault → fault.isOperational = true) ↔
      Text.halfRun? r.key = none ∧ ∀ reply, replied b r reply ∈ log → r.Expects reply := by
  obtain ⟨asked, hx, rfl⟩ := ends_ofWeb.mp h
  have hmem : ∀ reply : WebReply, replied b r reply ∈ asked.map overWeb ↔
      (⟨.fetch (b.url r) b.timeout, reply⟩ : Exchange web) ∈ asked :=
    fun reply => List.mem_map_of_injective overWeb_injective
  simp only [hmem]
  exact (Broker.getResult_operational_iff hx).trans (Broker.getResult_reported b r asked x hx).2.1

/-- The requests that are made to resolve an address. -/
def requestsAbout (ip : Text) : List BrokerRequest :=
  [.serviceAt ip, .podAt ip]

theorem key_of_mem {ip : Text} (h : r ∈ requestsAbout ip) : r.key = ip := by
  simp only [requestsAbout, List.mem_cons, List.not_mem_nil, or_false] at h
  cases h with
  | inl h => rw [h]; rfl
  | inr h => rw [h]; rfl

theorem eq_of_replied {ip : Text} {r' : BrokerRequest} (h : r ∈ requestsAbout ip)
    (h' : r' ∈ requestsAbout ip) {reply reply' : WebReply}
    (heq : replied b r reply = replied b r' reply') : r = r' := by
  have hurl : b.url r = b.url r' := by
    have hquestion := congrArg Exchange.question (overWeb_injective heq)
    exact (WebQuestion.fetch.inj hquestion).1
  simp only [requestsAbout, List.mem_cons, List.not_mem_nil, or_false] at h h'
  rcases h with rfl | rfl
  · rcases h' with rfl | rfl
    · rfl
    · exact absurd hurl (Broker.url_service_ne_pod b ip ip)
  · rcases h' with rfl | rfl
    · exact absurd hurl.symm (Broker.url_service_ne_pod b ip ip)
    · rfl

/-- How a lookup for the peer at an address is answered. -/
inductive Answered (b : Broker) (ip : Text) (e : Exchange lookups)
    (part : List (Exchange outside)) : Prop
  | byBroker (r : BrokerRequest) (hr : r ∈ requestsAbout ip) (x : Except Fault r.Result)
    (h : (ofWeb (b.getResult r)).Ends part x) (hfault : e.fault? = faultOf? x)
  | byCluster (hpart : ∀ d : Exchange web, overWeb d ∉ part)
    (hfault : ∀ fault, e.fault? = some fault → fault.isOperational = true)

theorem answered_of_asks {timeout : Double} {ip : Text} {e : Exchange lookups}
    {part : List (Exchange outside)} (hasks : Peer.Asks ip e.question)
    (h : (answer b timeout e.question).Ends part e.answer) : Answered b ip e part := by
  obtain ⟨question, given⟩ := e
  cases question with
  | serviceAt address =>
    obtain rfl : address = ip := hasks
    exact .byBroker (.serviceAt address) (List.mem_cons_self ..) given h rfl
  | podAt address =>
    obtain rfl : address = ip := hasks
    exact .byBroker (.podAt address) (List.mem_cons_of_mem _ (List.mem_cons_self ..)) given h rfl
  | controller ns kind name =>
    obtain ⟨asked, hx, rfl⟩ := ends_ofCluster.mp h
    refine .byCluster (overWeb_not_mem_map asked) fun fault hfault => ?_
    rw [faultOf?_eq_some_iff.mp hfault] at hx
    exact Cluster.getController_operational hx
  | flows pod => exact hasks.elim
  | pod ns name => exact hasks.elim

/-- Resolution gives a peer exactly if the address has an encoding and the readers of the requests
about it are prepared for the replies. -/
theorem resolve_ok_iff_expects {timeout : Double} {ip : Text} {x : Except Fault Peer}
    (h : ((Peer.resolve ip).through (answer b timeout)).Ends log x) :
    (∃ peer, x = .ok peer) ↔ Text.halfRun? ip = none ∧
      ∀ r ∈ requestsAbout ip, ∀ reply, replied b r reply ∈ log → r.Expects reply := by
  obtain ⟨asked, hends, hpassed⟩ := Attempt.ends_through.mp h
  have hasks := Peer.guarded_resolve.asks asked x hends
  rw [Peer.resolve_ok_iff hends]
  constructor
  · intro hown
    constructor
    · obtain ⟨given, hservice⟩ := Peer.resolve_asks_service hends
      obtain ⟨part, -, hpart⟩ := hpassed.exists_of_mem hservice
      have hrequest : (ofWeb (b.getResult (.serviceAt ip))).Ends part given := hpart
      refine ((ofWeb_operational_iff hrequest).mp fun fault hfault => ?_).1
      exact hown _ hservice fault (faultOf?_eq_some_iff.mpr hfault)
    · intro r hr reply hreply
      obtain ⟨e, he, part, hmem, hpart⟩ := hpassed.exists_of_mem_log hreply
      cases answered_of_asks (hasks e he) hpart with
      | byCluster hnone _ => exact absurd hmem (hnone _)
      | byBroker r' hr' given hgiven hfault =>
        obtain ⟨reply', hreply'⟩ := exists_replied hgiven hmem
        obtain rfl := eq_of_replied hr hr' hreply'
        refine ((ofWeb_operational_iff hgiven).mp fun fault hfails => ?_).2 reply hmem
        exact hown e he fault (hfault.trans (faultOf?_eq_some_iff.mpr hfails))
  · intro ⟨hkey, hexpects⟩ e he fault hfault
    obtain ⟨part, hsub, hpart⟩ := hpassed.exists_of_mem he
    cases answered_of_asks (hasks e he) hpart with
    | byCluster _ hown => exact hown fault hfault
    | byBroker r hr given hgiven hgave =>
      refine (ofWeb_operational_iff hgiven).mpr ⟨?_, fun reply hreply => ?_⟩ fault ?_
      · rwa [key_of_mem hr]
      · exact hexpects r hr reply (hsub _ hreply)
      · exact faultOf?_eq_some_iff.mp (hgave.symm.trans hfault)

/-! ## Requests and peers -/

/-- A request ends with a value or with a fault of the broker's own, and a resolution with a peer,
exactly if the key or the address has an encoding and the readers are prepared for the replies. A
request is made once, and gives nothing for what the broker does not hold. -/
theorem lookups_reported (b : Broker) (timeout : Double) :
    (∀ (r : BrokerRequest) (log : List (Exchange web)) (x : Except Fault r.Result),
      (b.getResult r).Ends log x →
      (Text.halfRun? r.key = none → ∃ reply, log = [⟨.fetch (b.url r) b.timeout, reply⟩]) ∧
      (Reported x ↔ Text.halfRun? r.key = none ∧
        ∀ reply, ⟨.fetch (b.url r) b.timeout, reply⟩ ∈ log → r.Expects reply) ∧
      (∀ body, ⟨.fetch (b.url r) b.timeout, .response 404 body⟩ ∈ log → x = .ok r.nothing)) ∧
    (∀ (ip : Text) (log : List (Exchange outside)) (x : Except Fault Peer),
      ((Peer.resolve ip).through (answer b timeout)).Ends log x →
      ((∃ peer, x = .ok peer) ↔ Text.halfRun? ip = none ∧
        ∀ r ∈ requestsAbout ip, ∀ reply, replied b r reply ∈ log → r.Expects reply)) :=
  ⟨fun r log x h => Broker.getResult_reported b r log x h, fun _ _ _ h => resolve_ok_iff_expects h⟩

/-- A broker. -/
def sampleBroker : Broker := ⟨"http://broker", .ofNat 10⟩

/-- An outside without a cluster, in which that broker has one document, under the address of a
pod. -/
def oneDocument (document : Text) : StillOutside where
  cluster := StillOutside.noCluster
  web
    | .fetch url _ =>
      if url = sampleBroker.url (.podAt "10.0.0.9") then .response 200 document
      else .response 404 []
    | .close => ()

/-- The request for the pod at the address, where there is just that document. -/
def sampleRequest (document : Text) : List (Exchange web) × Except Fault (Option Pod) :=
  (sampleBroker.getPodAt "10.0.0.9").outcome.known (oneDocument document).web

/-- The resolution of the address, where there is just that document. -/
def sampleResolution (document : Text) : List (Exchange outside) × Except Fault Peer :=
  ((Peer.resolve "10.0.0.9").through (answer sampleBroker (.ofNat 10))).outcome.known
    (oneDocument document).answer

/-- The document of a pod with one label. -/
def podDocument : Text :=
  "\x7b\"pod_name\": \"web\", \"pod_namespace\": \"shop\", \"pod_obj\": " ++
    "\x7b\"metadata\": \x7b\"labels\": \x7b\"app\": \"web\"\x7d\x7d\x7d\x7d"

/-- The labels by which a resolution selects, as they are shown, and their namespace. -/
def selected : Except Fault Peer → Option (List (Scalar × Text) × Text)
  | .ok (.selector labels ns) => some (labels.map fun l => (l.1, l.2.shown), ns)
  | _ => none

theorem ends_sampleRequest (document : Text) :
    (sampleBroker.getResult (.podAt "10.0.0.9")).Ends (sampleRequest document).1
      (sampleRequest document).2 :=
  Inquiry.ends_known _ _

theorem ends_sampleResolution (document : Text) :
    ((Peer.resolve "10.0.0.9").through (answer sampleBroker (.ofNat 10))).Ends
      (sampleResolution document).1 (sampleResolution document).2 :=
  Inquiry.ends_known _ _

/-- The result is no fault. -/
def isOk {α : Type} : Except Fault α → Bool
  | .ok _ => true
  | .error _ => false

theorem exists_of_isOk {α : Type} {x : Except Fault α} (h : isOk x = true) : ∃ a, x = .ok a := by
  cases x with
  | ok a => exact ⟨a, rfl⟩
  | error fault => cases h

/-- The readers are prepared for the document, and a selector comes of it. -/
theorem lookups_reported_podDocument :
    selected (sampleResolution podDocument).2
      = (some ([(.text "app", "web")], "shop") : Option (List (Scalar × Text) × Text)) ∧
    (∃ reply, (sampleRequest podDocument).1
      = [⟨.fetch (sampleBroker.url (.podAt "10.0.0.9")) sampleBroker.timeout, reply⟩] ∧
      (BrokerRequest.podAt "10.0.0.9").Expects reply) ∧
    ∀ r ∈ requestsAbout "10.0.0.9", ∀ reply,
      replied sampleBroker r reply ∈ (sampleResolution podDocument).1 → r.Expects reply := by
  obtain ⟨hrequests, hresolutions⟩ := lookups_reported sampleBroker (.ofNat 10)
  refine ⟨by decide +kernel, ?_, ?_⟩
  · obtain ⟨honce, hreported, -⟩ := hrequests _ _ _ (ends_sampleRequest podDocument)
    obtain ⟨hkey, hexpects⟩ := hreported.mp (reported_of_ok (exists_of_isOk (by decide +kernel)))
    obtain ⟨reply, hlog⟩ := honce hkey
    exact ⟨reply, hlog, hexpects reply (hlog ▸ List.mem_singleton.mpr rfl)⟩
  · have hok : ∃ peer, (sampleResolution podDocument).2 = .ok peer :=
      exists_of_isOk (by decide +kernel)
    exact ((hresolutions _ _ _ (ends_sampleResolution podDocument)).mp hok).2

/-- A document in which a text stands for the pod. -/
def textForPod : Text :=
  "\x7b\"pod_obj\": \"x\"\x7d"

/-- Neither the request nor the resolution is prepared for a text that stands for the pod. -/
theorem lookups_unreported_textForPod :
    ¬ Reported (sampleRequest textForPod).2 ∧
      ¬ ∃ peer, (sampleResolution textForPod).2 = .ok peer := by
  have hrequest : (sampleRequest textForPod).2 = .error (.shape .noMembers) :=
    faultOf?_eq_some_iff.mp (by decide +kernel)
  have hresolution : (sampleResolution textForPod).2 = .error (.shape .noMembers) :=
    faultOf?_eq_some_iff.mp (by decide +kernel)
  rw [hrequest, hresolution]
  constructor
  · intro hreported
    obtain ⟨f, e⟩ := hreported _ rfl
    cases e
  · exact fun ⟨_, e⟩ => nomatch e

end Session

end LeastPrivilege
