/-
# The socket servers

`sockets/socket.server.ts`, with the handshake of `sockets/socket.auth.ts`.  A client connects to
one of several servers and joins rooms.  An event is published to a room: it is emitted to the
sockets of the room on the server that publishes it, and the other servers get it through the
Pub/Sub channel of Redis.  The local emission and the command to Redis are one statement, since
nothing is awaited in between.

Left out are the stream of the logs that `join:logs` opens, the cache entry that the handshake
writes, and how it takes the token out of the headers.  What an event handler passes to its
callback as an error is thrown here.

What a socket has heard is history, which no server looks at, and so are the users that an order
has had.
-/
import MeeoServer.Auth.Accounts
import MeeoServer.Process.Interleaving
import MeeoServer.Process.Relay
import MeeoServer.Sockets.Rooms

namespace MeeoServer.Sockets

open Proc

abbrev SocketId := ℕ
abbrev ServerId := ℕ

/-! ## The servers -/

/-- `RedisPubSubMessage`, without its origin; `data` is JSON. -/
structure Publication where
  targetRoom : String
  event : String
  data : String
deriving DecidableEq

abbrev Emission := Entry ServerId Publication

structure AccessToken where
  userId : String
  email : Option String
  sessionId : Option String
deriving DecidableEq

structure RoleRow where
  name : String
  permissions : List String

structure UserRow where
  status : UserStatus
  roles : List RoleRow

structure CachedAuthContext where
  roles : List String
  permissions : List String

structure Socket where
  server : ServerId
  token : String
  user : SocketUserContext
  connected : Bool
  rooms : List String
  /-- What its server has emitted before it connected, and what it has heard since. -/
  before : List Emission
  received : List Emission
  /-- What was emitted to rooms that it was not in. -/
  absent : List Emission
  /-- What was emitted after it disconnected. -/
  after : List Emission

structure Cluster where
  contexts : String → Option String → Option CachedAuthContext
  users : String → Option UserRow
  orders : String → Option (Option String)
  /-- The users that an order has ever had. -/
  owners : List (String × String)
  owned : ∀ orderId userId, orders orderId = some (some userId) → (orderId, userId) ∈ owners
  sockets : SocketId → Option Socket
  /-- Is the connection to Redis up? -/
  ready : ServerId → Bool
  relay : Relay ServerId Publication

def Cluster.modify (id : SocketId) (f : Socket → Socket) (s : Cluster) : Cluster :=
  { s with sockets := Function.update s.sockets id ((s.sockets id).map f) }

/-- `ioInstance.to(room).emit` on a server, as a socket hears it. -/
def Socket.hear (server : ServerId) (e : Emission) (socket : Socket) : Socket :=
  if socket.server ≠ server then socket
  else if ¬socket.connected then { socket with after := socket.after ++ [e] }
  else if e.body.targetRoom ∈ socket.rooms then { socket with received := socket.received ++ [e] }
  else { socket with absent := socket.absent ++ [e] }

def Cluster.emit (server : ServerId) (e : Emission) (s : Cluster) : SocketId → Option Socket :=
  fun id => (s.sockets id).map (Socket.hear server e)

inductive Commit where
  | connect (id : SocketId) (server : ServerId) (token : String) (user : SocketUserContext)
  | join (id : SocketId) (rooms : List String)
  | leave (id : SocketId) (rooms : List String)
  | disconnect (id : SocketId)
  | publish (server : ServerId) (publication : Publication)
  | close (server : ServerId)

/-- A new socket, in the personal room of its user. -/
def Cluster.opened (s : Cluster) (server : ServerId) (token : String) (user : SocketUserContext) :
    Socket where
  server := server
  token := token
  user := user
  connected := true
  rooms := [Room.user user.userId]
  before := s.relay.emitted server
  received := []
  absent := []
  after := []

/-- Socket identifiers are drawn at random, and never twice. -/
def Cluster.connect (id : SocketId) (socket : Socket) (s : Cluster) : Option Cluster :=
  if (s.sockets id).isSome then none
  else some { s with sockets := Function.update s.sockets id (some socket) }

def Socket.disconnect (socket : Socket) : Socket := { socket with connected := false, rooms := [] }

def Cluster.publish (server : ServerId) (publication : Publication) (s : Cluster) : Cluster :=
  { s with
    sockets := s.emit server (s.relay.next server publication)
    relay := s.relay.publish server publication (s.ready server) }

def Cluster.close (server : ServerId) (s : Cluster) : Cluster :=
  { s with
    sockets := fun id => (s.sockets id).map fun socket =>
      if socket.server = server then socket.disconnect else socket
    relay := s.relay.drop server }

def Commit.apply : Commit → Cluster → Option Cluster
  | connect id server token user, s => s.connect id (s.opened server token user)
  | join id rooms, s =>
    some (s.modify id fun socket => { socket with rooms := rooms ∪ socket.rooms })
  | leave id rooms, s =>
    some (s.modify id fun socket =>
      { socket with rooms := socket.rooms.filter fun room => room ∉ rooms })
  | disconnect id, s => some (s.modify id Socket.disconnect)
  | publish server publication, s => some (s.publish server publication)
  | close server, s => some (s.close server)

/-! ## The handlers -/

abbrev Handler := Proc Cluster Commit String

section Handlers

variable (verifyAccessToken : String → Option AccessToken)

/-- Rejects unauthenticated connections; the result is `socket.data.user`. -/
def socketAuthMiddleware (token : String) : Handler SocketUserContext := do
  match verifyAccessToken token with
  | none => throw "Authentication failed: Invalid or expired token"
  | some payload =>
    let s ← Proc.read
    match s.contexts payload.userId payload.sessionId with
    | some cached => pure ⟨payload.userId, payload.email, cached.roles, cached.permissions⟩
    | none =>
      let s ← Proc.read
      match s.users payload.userId with
      | none => throw "Authentication failed: User is inactive or not found"
      | some user =>
        if user.status ≠ .active then
          throw "Authentication failed: User is inactive or not found"
        else
          pure ⟨payload.userId, payload.email, user.roles.map RoleRow.name,
            (user.roles.flatMap RoleRow.permissions).eraseDups⟩

/-- The handshake, and the personal room that a socket is in automatically. -/
def connection (id : SocketId) (server : ServerId) (token : Option String) : Handler Unit := do
  match token with
  | none => throw "Authentication required: Missing access token"
  | some token =>
    let user ← socketAuthMiddleware verifyAccessToken token
    let _ ← Proc.commit (.connect id server token user)
    pure ()

/-- The user of a socket never changes. -/
def socketUser (id : SocketId) : Handler SocketUserContext := do
  let s ← Proc.read
  match s.sockets id with
  | none => throw ""
  | some socket => pure socket.user

/-- Customer subscribes to live tracking for a specific order. -/
def joinOrder (id : SocketId) (orderId : String) : Handler Unit := do
  let user ← socketUser id
  if orderId = "" then throw "Invalid orderId"
  else if canJoinAdminRoom user (some "order:read") then
    let _ ← Proc.commit (.join id [Room.order orderId])
    pure ()
  else
    let s ← Proc.read
    match s.orders orderId with
    | some (some ownerId) =>
      if ownerId = "" ∨ ¬canJoinOrderRoom user ownerId then
        throw "Unauthorized to track this order"
      else
        let _ ← Proc.commit (.join id [Room.order orderId])
        pure ()
    | _ => throw "Unauthorized to track this order"

def leaveOrder (id : SocketId) (orderId : String) : Handler Unit := do
  if orderId = "" then pure ()
  else
    let _ ← Proc.commit (.leave id [Room.order orderId])
    pure ()

/-- The rooms of a channel; a client may send any string. -/
def channelRooms (channel : String) : List String :=
  (if channel = "orders" ∨ channel = "all" then [Room.adminOrders] else []) ++
    (if channel = "inventory" ∨ channel = "all" then [Room.adminInventory] else []) ++
      (if channel = "payments" ∨ channel = "all" then [Room.adminPayments] else []) ++ [Room.admin]

/-- Admin console subscribes to admin streams (orders, inventory, payments), or to the logs. -/
def joinAdministration (id : SocketId) (rooms : List String) : Handler Unit := do
  let user ← socketUser id
  if canJoinAdminRoom user none then
    let _ ← Proc.commit (.join id rooms)
    pure ()
  else throw "Forbidden: Admin privileges required"

def joinAdmin (id : SocketId) (channel : String) : Handler Unit :=
  joinAdministration id (channelRooms channel)

def joinLogs (id : SocketId) : Handler Unit := joinAdministration id [Room.adminLogs]

def leaveAdmin (id : SocketId) : Handler Unit := do
  let _ ← Proc.commit
    (.leave id [Room.admin, Room.adminOrders, Room.adminInventory, Room.adminPayments])
  pure ()

def leaveLogs (id : SocketId) : Handler Unit := do
  let _ ← Proc.commit (.leave id [Room.adminLogs])
  pure ()

/-- Publishes a real-time event to a target room: delivers locally to connected sockets and
publishes to Redis Pub/Sub for other cluster instances. -/
def publishRealtimeEvent (server : ServerId) (targetRoom event data : String) : Handler Unit := do
  let _ ← Proc.commit (.publish server ⟨targetRoom, event, data⟩)
  pure ()

def emitToUser (server : ServerId) (userId event data : String) : Handler Unit :=
  publishRealtimeEvent server (Room.user userId) event data

def emitToOrder (server : ServerId) (orderId event data : String) : Handler Unit :=
  publishRealtimeEvent server (Room.order orderId) event data

/-- The target is `orders`, `inventory`, `payments` or `all`. -/
def emitToAdmin (server : ServerId) (target event data : String) : Handler Unit :=
  publishRealtimeEvent server
    (if target = "orders" then Room.adminOrders
      else if target = "inventory" then Room.adminInventory
      else if target = "payments" then Room.adminPayments
      else Room.admin) event data

inductive Call where
  | connection (id : SocketId) (server : ServerId) (token : Option String)
  | joinOrder (id : SocketId) (orderId : String)
  | leaveOrder (id : SocketId) (orderId : String)
  | joinAdmin (id : SocketId) (channel : String)
  | leaveAdmin (id : SocketId)
  | joinLogs (id : SocketId)
  | leaveLogs (id : SocketId)
  | disconnect (id : SocketId)
  | publishRealtimeEvent (server : ServerId) (targetRoom event data : String)
  | closeSocketServer (server : ServerId)

def Call.proc : Call → Handler Unit
  | .connection id server token => Sockets.connection verifyAccessToken id server token
  | .joinOrder id orderId => Sockets.joinOrder id orderId
  | .leaveOrder id orderId => Sockets.leaveOrder id orderId
  | .joinAdmin id channel => Sockets.joinAdmin id channel
  | .leaveAdmin id => Sockets.leaveAdmin id
  | .joinLogs id => Sockets.joinLogs id
  | .leaveLogs id => Sockets.leaveLogs id
  | .disconnect id => do
    let _ ← Proc.commit (.disconnect id)
    pure ()
  | .publishRealtimeEvent server targetRoom event data =>
    Sockets.publishRealtimeEvent server targetRoom event data
  | .closeSocketServer server => do
    let _ ← Proc.commit (.close server)
    pure ()

end Handlers

inductive Environment where
  | contexts (contexts : String → Option String → Option CachedAuthContext)
  | users (users : String → Option UserRow)
  /-- An order is created, changed or deleted. -/
  | order (orderId : String) (row : Option (Option String))
  | redis (server : ServerId) (ready : Bool)
  /-- Redis forwards a message to the servers that have subscribed; if there are none, it is lost. -/
  | forward (i : ℕ) (subscribed : ServerId → Bool)
  /-- The subscriber of a server gets a message.  Avoid duplicate emit if this instance already
  broadcasted locally. -/
  | message (server : ServerId)

def Cluster.setOrder (orderId : String) (row : Option (Option String)) (s : Cluster) : Cluster :=
  { s with
    orders := Function.update s.orders orderId row
    owners := s.owners ++ (row.join.map fun userId => (orderId, userId)).toList
    owned := by
      intro id userId h
      by_cases hid : id = orderId
      · subst hid
        rw [Function.update_self] at h
        exact List.mem_append_right _ (by simp [h])
      · rw [Function.update_of_ne hid] at h
        exact List.mem_append_left _ (s.owned id userId h) }

def Cluster.message (server : ServerId) (s : Cluster) : Cluster :=
  { s with
    sockets := match s.relay.inbox server with
      | [] => s.sockets
      | e :: _ => if e.origin = server then s.sockets else s.emit server e
    relay := s.relay.take server }

def Environment.apply (s : Cluster) : Environment → Cluster
  | .contexts cached => { s with contexts := cached }
  | .users rows => { s with users := rows }
  | .order orderId row => s.setOrder orderId row
  | .redis server ready => { s with ready := Function.update s.ready server ready }
  | .forward i subscribed => { s with relay := s.relay.forward i subscribed }
  | .message server => s.message server

def socketServer (verifyAccessToken : String → Option AccessToken) :
    Machine Cluster Commit String Call Environment where
  apply := Commit.apply
  proc := Call.proc verifyAccessToken
  environ e s := e.apply s

end MeeoServer.Sockets
