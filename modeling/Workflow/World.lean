import Workflow.Files
import Workflow.World.Peers
/-!
# The world of a run

What nodes can reach besides the state: the peers and the files. Deliveries are kept in order.

## Main definitions

* `World` — peers, deliveries so far, files.
* `World.http`, `World.sql`, `World.document`, `World.mail` — send a message and get the reply.
-/

namespace Workflow

/-- What nodes can reach besides the state. -/
structure World where
  peers : Peers
  /-- What has arrived at the peers, in order. -/
  deliveries : List Delivery := []
  files : FileTree := {}
  deriving Inhabited

namespace World

def deliver (world : World) (delivery : Delivery) : World :=
  { world with deliveries := world.deliveries ++ [delivery] }

/-- Send a request; one that does not arrive is a lost connection. -/
def http (world : World) (request : HttpRequest) : HttpReply × World :=
  match world.peers.http world.deliveries request with
  | some reply => (reply, world.deliver (.http request))
  | none => (.connectionLost, world)

/-- Send a statement; it counts as delivered unless it is refused or does not arrive. -/
def sql (world : World) (url : String) (statement : SqlStatement) : SqlReply × World :=
  match world.peers.sql world.deliveries url statement with
  | .unreachable => (.unreachable, world)
  | .refused => (.refused, world)
  | reply => (reply, world.deliver (.sql statement))

/-- Send a command. -/
def document (world : World) (uri : String) (command : DocumentCommand) : DocumentReply × World :=
  match world.peers.document world.deliveries uri command with
  | .unreachable => (.unreachable, world)
  | reply => (reply, world.deliver (.document command))

/-- Send a mail. -/
def mail (world : World) (session : MailSession) : MailReply × World :=
  let login := world.deliver (.login session.username session.password)
  match world.peers.mail world.deliveries session with
  | .unreachable => (.unreachable, world)
  | .loggedIn => (.loggedIn, login)
  | .accepted => (.accepted, login.deliver (.mail session.mail))

end World

end Workflow
