import LeastPrivilege.Broker
import LeastPrivilege.Outlet
import LeastPrivilege.Policy.Batch
import LeastPrivilege.Tunnel

/-!
Sessions: a broker in use, behind its tunnel if one is needed. Whatever becomes of the work, the
connection is given up and the tunnel closed. Lookups go to the broker for flows and addresses, and
to the cluster for names.
-/

namespace LeastPrivilege

/-- Everything outside the program: the cluster, the system, the web, and where output goes. -/
abbrev outside : Interface := tunnelWork.or (web.or outlet)

namespace Session

/-- Asks the cluster. -/
def ofCluster {α : Type} (x : Attempt cluster α) : Attempt outside α :=
  x.inLeft.inLeft

/-- Asks the web. -/
def ofWeb {α : Type} (x : Attempt web α) : Attempt outside α :=
  x.inLeft.inRight

/-- Puts something out. -/
def ofOutlet {α : Type} (x : Attempt outlet α) : Attempt outside α :=
  x.inRight.inRight

/-- Answers a lookup. -/
def answer (broker : Broker) (timeout : Double) : (q : Lookup) → Inquiry outside q.Answer
  | .flows pod => (ofWeb (broker.getFlows pod)).outcome
  | .podAt ip => (ofWeb (broker.getPodAt ip)).outcome
  | .serviceAt ip => (ofWeb (broker.getServiceAt ip)).outcome
  | .controller ns kind name => (ofCluster (Cluster.getController timeout ns kind name)).outcome
  | .pod ns name => (ofCluster (Cluster.getPod timeout ns name)).outcome

/-- Answers lookups, and passes output on. -/
def answerWork (broker : Broker) (timeout : Double) :
    (q : work.Question) → Inquiry outside (work.Answer q)
  | .inl q => answer broker timeout q
  | .inr q => Inquiry.put (I := outside) (.inr (.inr q))

/-- Work with a broker, after which the connection is given up. -/
def withConnection {α : Type} (broker : Broker) (use : Broker → Attempt outside α) :
    Inquiry outside (Except Fault α) := do
  let result ← (use broker).outcome
  let _ ← (ofWeb broker.close).outcome
  return result

/-- Asks what a tunnel and the work in it ask. -/
def answerEither : (q : (tunnelWork.or outside).Question) →
    Inquiry outside ((tunnelWork.or outside).Answer q)
  | .inl q => Inquiry.put (I := outside) (.inl q)
  | .inr q => Inquiry.put (I := outside) q

/-- Work with the broker that the settings lead to. -/
def withBroker {α : Type} (s : Settings) (use : Broker → Attempt outside α) :
    Attempt outside α :=
  if s.portForward then
    let work := withConnection (Broker.ofUrl (Tunnel.url s) s.requestTimeout) use
    ExceptT.mk do
      let (result, _) ←
        (Tunnel.during (Tunnel.turns s.tunnelTimeout) s work {}).through answerEither
      return result
  else
    ExceptT.mk (withConnection (Broker.ofUrl s.brokerUrl s.requestTimeout) use)

end Session

end LeastPrivilege
