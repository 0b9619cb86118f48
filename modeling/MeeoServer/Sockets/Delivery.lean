/-
# What a socket hears

Whatever the servers do and whatever is lost on the way: a socket hears only what was published to
rooms that its user was entitled to join, and each event is accounted for once.
-/
import MeeoServer.Sockets.Server

namespace MeeoServer.Sockets

open Proc

variable {verifyAccessToken : String → Option AccessToken}

/-! ## The programs -/

/-- What the handlers commit. -/
def Emitted (verifyAccessToken : String → Option AccessToken) (s : Cluster) : Commit → Prop
  | .connect _ _ token user =>
    ∃ payload, verifyAccessToken token = some payload ∧ payload.userId = user.userId
  | .join id rooms => ∀ socket, s.sockets id = some socket →
    ∀ room ∈ rooms, Entitled s.owners socket.user room
  | _ => True

/-- What every step does: no owner of an order is forgotten, and a socket keeps its user. -/
structure Within (s s' : Cluster) : Prop where
  owners : s.owners ⊆ s'.owners
  user : ∀ {id socket}, s.sockets id = some socket →
    ∃ socket', s'.sockets id = some socket' ∧ socket'.user = socket.user

namespace Within

variable {s s' s'' : Cluster}

lemma refl (s : Cluster) : Within s s := ⟨fun _ h => h, fun h => ⟨_, h, rfl⟩⟩

lemma trans (h : Within s s') (h' : Within s' s'') : Within s s'' where
  owners _ howner := h'.owners (h.owners howner)
  user hsocket := by
    obtain ⟨socket', hsocket', huser⟩ := h.user hsocket
    obtain ⟨socket'', hsocket'', huser'⟩ := h'.user hsocket'
    exact ⟨socket'', hsocket'', huser'.trans huser⟩

/-- A step that changes the sockets one by one. -/
lemma of_map {f : SocketId → Socket → Socket} (howners : s.owners ⊆ s'.owners)
    (hsockets : ∀ id, s'.sockets id = (s.sockets id).map (f id))
    (huser : ∀ id socket, (f id socket).user = socket.user) : Within s s' where
  owners := howners
  user {id socket} hsocket := ⟨f id socket, by rw [hsockets, hsocket]; rfl, huser id socket⟩

end Within

section Steps

variable {s s' : Cluster} {c : Commit} {id : SocketId} {socket socket' : Socket}
  {server : ServerId} {e : Emission}

@[simp] lemma hear_user : (socket.hear server e).user = socket.user := by
  unfold Socket.hear
  split_ifs <;> rfl

@[simp] lemma hear_token : (socket.hear server e).token = socket.token := by
  unfold Socket.hear
  split_ifs <;> rfl

@[simp] lemma hear_server : (socket.hear server e).server = socket.server := by
  unfold Socket.hear
  split_ifs <;> rfl

@[simp] lemma hear_rooms : (socket.hear server e).rooms = socket.rooms := by
  unfold Socket.hear
  split_ifs <;> rfl

lemma mem_hear_received {e' : Emission} (h : e' ∈ (socket.hear server e).received) :
    e' ∈ socket.received ∨ e' = e ∧ e.body.targetRoom ∈ socket.rooms := by
  unfold Socket.hear at h
  split_ifs at h with _ _ hroom
  all_goals try exact .inl h
  exact (List.mem_append.mp h).imp_right fun h => ⟨List.mem_singleton.mp h, hroom⟩

/-- What a socket's server has emitted, as the socket has met it. -/
def Socket.history (socket : Socket) : Multiset Emission :=
  (socket.before : Multiset Emission) + socket.received + socket.absent + socket.after

/-- Each emission of its server is in one place of the history. -/
lemma hear_history : (socket.hear server e).history =
    socket.history + if socket.server = server then {e} else 0 := by
  have happend (l : List Emission) : ((l ++ [e] : List Emission) : Multiset Emission) = l + {e} :=
    (Multiset.coe_add l [e]).symm
  by_cases hserver : socket.server = server
  · rw [if_pos hserver]
    unfold Socket.hear Socket.history
    rw [if_neg (not_not.mpr hserver)]
    split_ifs <;> (dsimp only; rw [happend]; abel)
  · rw [if_neg hserver, add_zero, Socket.hear, if_pos hserver]

/-- Changing one socket changes each in its way. -/
lemma modify_sockets (s : Cluster) (id : SocketId) (f : Socket → Socket) (id' : SocketId) :
    (s.modify id f).sockets id' =
      (s.sockets id').map fun socket => if id' = id then f socket else socket := by
  unfold Cluster.modify
  by_cases hid : id' = id
  · subst hid
    simp
  · simp [hid]

lemma connect_eq_some (h : s.connect id socket = some s') : s.sockets id = none ∧
    s' = { s with sockets := Function.update s.sockets id (some socket) } := by
  obtain ⟨hfree, hs'⟩ := Option.ite_none_left_eq_some.mp h
  exact ⟨by simpa using hfree, (Option.some.inj hs').symm⟩

lemma within_apply (happ : c.apply s = some s') : Within s s' := by
  cases c with
  | connect id server token user =>
    obtain ⟨hfree, rfl⟩ := connect_eq_some happ
    refine ⟨fun _ h => h, fun {id' socket} hsocket => ⟨socket, ?_, rfl⟩⟩
    -- the identifier is a new one
    have hne : id' ≠ id := by
      rintro rfl
      exact nomatch hfree.symm.trans hsocket
    exact (Function.update_of_ne hne ..).trans hsocket
  | join id rooms | leave id rooms | disconnect id =>
    obtain rfl := Option.some.inj happ
    refine .of_map (fun _ h => h) (modify_sockets s id _) fun id' socket => ?_
    split_ifs <;> rfl
  | publish server publication =>
    obtain rfl := Option.some.inj happ
    exact .of_map (fun _ h => h) (fun _ => rfl) fun _ _ => hear_user
  | close server =>
    obtain rfl := Option.some.inj happ
    refine .of_map (fun _ h => h) (fun _ => rfl) fun id socket => ?_
    split_ifs <;> rfl

lemma message_sockets (s : Cluster) (server : ServerId) (id : SocketId) :
    (s.message server).sockets id = (s.sockets id).map fun socket =>
      match s.relay.inbox server with
      | [] => socket
      | e :: _ => if e.origin = server then socket else socket.hear server e := by
  unfold Cluster.message
  cases s.relay.inbox server with
  | nil => simp
  | cons e rest =>
    by_cases he : e.origin = server <;> simp [he, Cluster.emit]

lemma within_environ (x : Environment) : Within s (x.apply s) := by
  cases x with
  | contexts _ | users _ | redis _ _ | forward _ _ => exact ⟨fun _ h => h, fun h => ⟨_, h, rfl⟩⟩
  | order orderId row => exact ⟨List.subset_append_left .., fun h => ⟨_, h, rfl⟩⟩
  | message server =>
    refine .of_map (fun _ h => h) (message_sockets s server) fun _ socket => ?_
    cases s.relay.inbox server with
    | nil => rfl
    | cons e rest =>
      dsimp only
      split_ifs
      · rfl
      · exact hear_user

end Steps

/-! ## The invariant -/

structure Socket.Sound (verifyAccessToken : String → Option AccessToken) (s : Cluster)
    (socket : Socket) : Prop where
  token : ∃ payload, verifyAccessToken socket.token = some payload ∧
    payload.userId = socket.user.userId
  rooms : ∀ room ∈ socket.rooms, Entitled s.owners socket.user room
  received : ∀ e ∈ socket.received, Entitled s.owners socket.user e.body.targetRoom
  heard : socket.history = s.relay.emitted socket.server

structure Sound (verifyAccessToken : String → Option AccessToken) (s : Cluster) : Prop where
  relay : s.relay.Accounted
  sockets : ∀ {id socket}, s.sockets id = some socket → socket.Sound verifyAccessToken s

section Preservation

variable {s s' : Cluster} {c : Commit} {id : SocketId} {socket : Socket} {server : ServerId}
  {e : Emission}

lemma Socket.Sound.mono (h : socket.Sound verifyAccessToken s) (howners : s.owners ⊆ s'.owners)
    (hemitted : s'.relay.emitted = s.relay.emitted) : socket.Sound verifyAccessToken s' where
  token := h.token
  rooms room hroom := (h.rooms room hroom).mono howners
  received e he := (h.received e he).mono howners
  heard := by rw [hemitted]; exact h.heard

lemma Socket.Sound.withRooms (h : socket.Sound verifyAccessToken s) (connected : Bool)
    {rooms : List String} (hrooms : ∀ room ∈ rooms, Entitled s.owners socket.user room) :
    Socket.Sound verifyAccessToken s { socket with connected := connected, rooms := rooms } :=
  ⟨h.token, hrooms, h.received, h.heard⟩

/-- A socket in a room may hear what is emitted to the room. -/
lemma Socket.Sound.hear (h : socket.Sound verifyAccessToken s) (howners : s'.owners = s.owners)
    (hemitted : s'.relay.emitted socket.server =
      s.relay.emitted socket.server ++ if socket.server = server then [e] else []) :
    (socket.hear server e).Sound verifyAccessToken s' where
  token := by
    rw [hear_token, hear_user]
    exact h.token
  rooms room hroom := by
    rw [hear_rooms] at hroom
    rw [hear_user, howners]
    exact h.rooms room hroom
  received e' he' := by
    rw [hear_user, howners]
    rcases mem_hear_received he' with he' | ⟨rfl, hroom⟩
    · exact h.received e' he'
    · exact h.rooms _ hroom
  heard := by
    rw [hear_history, hear_server, hemitted, h.heard, ← Multiset.coe_add]
    split_ifs <;> rfl

/-- Each socket is changed in its way. -/
lemma Sound.of_map {f : SocketId → Socket → Socket} (h : Sound verifyAccessToken s)
    (hrelay : s'.relay.Accounted)
    (hsockets : ∀ id, s'.sockets id = (s.sockets id).map (f id))
    (hsound : ∀ {id socket}, s.sockets id = some socket → socket.Sound verifyAccessToken s →
      (f id socket).Sound verifyAccessToken s') : Sound verifyAccessToken s' where
  relay := hrelay
  sockets {id socket'} hsocket' := by
    obtain ⟨socket, hsocket, rfl⟩ := Option.map_eq_some_iff.mp ((hsockets id).symm.trans hsocket')
    exact hsound hsocket (h.sockets hsocket)

/-- The same, if it is one socket that changes. -/
lemma Sound.modify {f : Socket → Socket} (h : Sound verifyAccessToken s)
    (hf : ∀ {socket}, s.sockets id = some socket → socket.Sound verifyAccessToken s →
      (f socket).Sound verifyAccessToken s) : Sound verifyAccessToken (s.modify id f) := by
  refine h.of_map h.relay (modify_sockets s id f) fun {id' socket} hsocket hsound => ?_
  by_cases hid : id' = id
  · rw [if_pos hid]
    exact (hf (hid ▸ hsocket) hsound).mono (fun _ h => h) rfl
  · rw [if_neg hid]
    exact hsound.mono (fun _ h => h) rfl

lemma Sound.apply (h : Sound verifyAccessToken s) (hc : Emitted verifyAccessToken s c)
    (happ : c.apply s = some s') : Sound verifyAccessToken s' := by
  cases c with
  | connect id server token user =>
    obtain ⟨-, rfl⟩ := connect_eq_some happ
    refine ⟨h.relay, fun {id' socket} hsocket => ?_⟩
    change Function.update s.sockets id _ id' = some socket at hsocket
    by_cases hid : id' = id
    · subst hid
      rw [Function.update_self] at hsocket
      obtain rfl := Option.some.inj hsocket
      refine ⟨hc, fun room hroom => ?_, fun e he => (nomatch he), ?_⟩
      · obtain rfl := List.mem_singleton.mp hroom
        exact .personal
      · simp [Socket.history, Cluster.opened]
    · rw [Function.update_of_ne hid] at hsocket
      exact (h.sockets hsocket).mono (fun _ h => h) rfl
  | join id rooms =>
    obtain rfl := Option.some.inj happ
    refine h.modify fun {socket} hsocket hsound => hsound.withRooms socket.connected ?_
    intro room hroom
    rcases List.mem_union_iff.mp hroom with hroom | hroom
    · exact hc socket hsocket room hroom
    · exact hsound.rooms room hroom
  | leave id rooms =>
    obtain rfl := Option.some.inj happ
    refine h.modify fun {socket} _ hsound => hsound.withRooms socket.connected ?_
    exact fun room hroom => hsound.rooms room (List.mem_filter.mp hroom).1
  | disconnect id =>
    obtain rfl := Option.some.inj happ
    exact h.modify fun _ hsound => hsound.withRooms false fun _ hroom => nomatch hroom
  | publish server publication =>
    obtain rfl := Option.some.inj happ
    refine h.of_map (h.relay.publish ..) (fun _ => rfl) fun _ hsound => hsound.hear rfl ?_
    exact Relay.publish_emitted ..
  | close server =>
    obtain rfl := Option.some.inj happ
    refine h.of_map (h.relay.drop server) (fun _ => rfl) fun {id socket} _ hsound => ?_
    have hsound' : socket.Sound verifyAccessToken (s.close server) :=
      hsound.mono (fun _ h => h) rfl
    split_ifs
    · exact hsound'.withRooms false fun _ hroom => nomatch hroom
    · exact hsound'

lemma Sound.environ (h : Sound verifyAccessToken s) (x : Environment) :
    Sound verifyAccessToken (x.apply s) := by
  cases x with
  | contexts _ | users _ | redis _ _ =>
    exact ⟨h.relay, fun hsocket => (h.sockets hsocket).mono (fun _ h => h) rfl⟩
  | order orderId row =>
    exact ⟨h.relay, fun hsocket => (h.sockets hsocket).mono (List.subset_append_left ..) rfl⟩
  | forward i subscribed =>
    exact ⟨h.relay.forward i subscribed, fun hsocket =>
      (h.sockets hsocket).mono (fun _ h => h) (Relay.forward_emitted ..)⟩
  | message server =>
    refine h.of_map (h.relay.take server) (message_sockets s server) fun {id socket} _ hsound => ?_
    cases hinbox : s.relay.inbox server with
    | nil => exact hsound.mono (fun _ h => h) (congrArg Relay.emitted (Relay.take_nil hinbox))
    | cons e rest =>
      dsimp only
      have hemitted : (Environment.apply s (.message server)).relay.emitted socket.server =
        s.relay.emitted socket.server ++ if socket.server = server then e.due server else [] :=
          Relay.take_emitted hinbox
      by_cases horigin : e.origin = server
      · -- what the server has published itself it does not emit again
        rw [if_pos horigin]
        refine ⟨hsound.token, hsound.rooms, hsound.received, hsound.heard.trans ?_⟩
        rw [hemitted, Entry.due, if_pos horigin, ite_self, List.append_nil]
      · rw [if_neg horigin]
        refine hsound.hear rfl ?_
        rw [hemitted, Entry.due_of_ne horigin]

end Preservation

/-! ## The handlers keep to it -/

section Emits

variable {s : Cluster}

lemma socketAuthMiddleware_emits (token : String) :
    (socketAuthMiddleware verifyAccessToken token).Emits Commit.apply Within Within
      (Emitted verifyAccessToken) (fun r _ => ∀ user, r = .ok user →
        ∃ payload, verifyAccessToken token = some payload ∧ payload.userId = user.userId) s := by
  unfold socketAuthMiddleware
  cases htoken : verifyAccessToken token with
  | none => exact fun _ h => nomatch h
  | some payload =>
    refine emits_read_post (fun _ _ h => nomatch h) fun s₁ _ => ?_
    cases s₁.contexts payload.userId payload.sessionId with
    | some cached =>
      rintro _ ⟨⟩
      exact ⟨payload, rfl, rfl⟩
    | none =>
      refine emits_read_post (fun _ _ h => nomatch h) fun s₂ _ => ?_
      split
      · exact fun _ h => nomatch h
      · split
        · exact fun _ h => nomatch h
        · rintro _ ⟨⟩
          exact ⟨payload, rfl, rfl⟩

lemma connection_emits (id : SocketId) (server : ServerId) (token : Option String) :
    (connection verifyAccessToken id server token).Emits Commit.apply Within Within
      (Emitted verifyAccessToken) Proc.Any s := by
  cases token with
  | none => exact emits_throw
  | some token =>
    refine Emits.bind ((socketAuthMiddleware_emits token).mono fun r s₁ hr => ?_)
    cases r with
    | error e => trivial
    | ok user => exact emits_commit (fun _ _ => hr user rfl) fun _ _ _ _ _ => emits_pure

/-- The handler knows the user of its socket. -/
lemma socketUser_emits {f : SocketUserContext → Handler Unit} {id : SocketId}
    (h : ∀ user s₁, (∀ s₂, Within s₁ s₂ → ∀ socket, s₂.sockets id = some socket →
      socket.user = user) →
      (f user).Emits Commit.apply Within Within (Emitted verifyAccessToken) Proc.Any s₁) :
    (socketUser id >>= f).Emits Commit.apply Within Within (Emitted verifyAccessToken)
      Proc.Any s := by
  have hread : (socketUser id).Emits Commit.apply Within Within (Emitted verifyAccessToken)
      (fun r s₁ => ∀ user, r = .ok user → ∀ s₂, Within s₁ s₂ →
        ∀ socket, s₂.sockets id = some socket → socket.user = user) s := by
    refine emits_read_post (fun _ _ h => nomatch h) fun s₁ _ => ?_
    cases hsocket : s₁.sockets id with
    | none => exact fun _ h => nomatch h
    | some socket =>
      rintro _ ⟨⟩ s₂ hwithin socket₂ hsocket₂
      obtain ⟨socket', hsocket', huser⟩ := hwithin.user hsocket
      obtain rfl := Option.some.inj (hsocket'.symm.trans hsocket₂)
      exact huser
  refine Emits.bind (hread.mono fun r s₁ hr => ?_)
  cases r with
  | error e => trivial
  | ok user => exact h user s₁ (hr user rfl)

lemma join_emits {id : SocketId} {rooms : List String}
    (h : ∀ s₁, Within s s₁ → ∀ socket, s₁.sockets id = some socket →
      ∀ room ∈ rooms, Entitled s₁.owners socket.user room) :
    (do let _ ← Proc.commit (.join id rooms); pure () : Handler Unit).Emits Commit.apply Within
      Within (Emitted verifyAccessToken) Proc.Any s :=
  emits_commit (fun s₁ hs₁ => h s₁ hs₁) fun _ _ _ _ _ => emits_pure

lemma joinOrder_emits (id : SocketId) (orderId : String) :
    (joinOrder id orderId).Emits Commit.apply Within Within (Emitted verifyAccessToken)
      Proc.Any s := by
  refine socketUser_emits fun user s₁ huser => ?_
  split
  · exact emits_throw
  · split
    · next hread =>
      refine join_emits fun s₂ hwithin socket hsocket room hroom => ?_
      obtain rfl := List.mem_singleton.mp hroom
      exact .reader (huser s₂ hwithin socket hsocket ▸ hread)
    · next hread =>
      refine emits_read fun s₂ hs₂ => ?_
      cases horder : s₂.orders orderId with
      | none => exact emits_throw
      | some ownerId =>
        cases ownerId with
        | none => exact emits_throw
        | some ownerId =>
          dsimp only
          split
          · exact emits_throw
          · next hdenied =>
            refine join_emits fun s₃ hs₃ socket hsocket room hroom => ?_
            obtain rfl := List.mem_singleton.mp hroom
            -- the order was the user's when it was looked up
            have hjoin : canJoinOrderRoom user ownerId = true :=
              not_not.mp fun hno => hdenied (Or.inr hno)
            have howner : user.userId = ownerId := by
              rw [canJoinOrderRoom, if_neg hread] at hjoin
              exact of_decide_eq_true hjoin
            rw [huser s₃ (hs₂.trans hs₃) socket hsocket]
            exact .owner (howner ▸ hs₃.owners (s₂.owned orderId ownerId horder))

lemma joinAdministration_emits (id : SocketId) {rooms : List String}
    (hrooms : ∀ room ∈ rooms, room ∈ Room.administration) :
    (joinAdministration id rooms).Emits Commit.apply Within Within (Emitted verifyAccessToken)
      Proc.Any s := by
  refine socketUser_emits fun user s₁ huser => ?_
  split
  · next hadmin =>
    refine join_emits fun s₂ hwithin socket hsocket room hroom => ?_
    exact .admin (hrooms room hroom) (huser s₂ hwithin socket hsocket ▸ hadmin)
  · exact emits_throw

lemma channelRooms_subset (channel : String) :
    ∀ room ∈ channelRooms channel, room ∈ Room.administration := by
  intro room hroom
  simp only [channelRooms, List.mem_append, List.mem_singleton] at hroom
  rcases hroom with ((hroom | hroom) | hroom) | rfl
  all_goals first | exact (by decide : Room.admin ∈ Room.administration) | skip
  all_goals
    split_ifs at hroom
    · obtain rfl := List.mem_singleton.mp hroom
      decide
    · exact nomatch hroom

lemma proc_emits (x : Call) :
    (x.proc verifyAccessToken).Emits Commit.apply Within Within (Emitted verifyAccessToken)
      Proc.Any s := by
  cases x with
  | connection id server token => exact connection_emits id server token
  | joinOrder id orderId => exact joinOrder_emits id orderId
  | leaveOrder id orderId =>
    show (leaveOrder id orderId).Emits _ _ _ _ _ s
    unfold leaveOrder
    split
    · exact emits_pure
    · exact emits_commit (fun _ _ => trivial) fun _ _ _ _ _ => emits_pure
  | joinAdmin id channel => exact joinAdministration_emits id (channelRooms_subset channel)
  | joinLogs id => exact joinAdministration_emits id (by decide)
  | leaveAdmin _ | leaveLogs _ | disconnect _ | publishRealtimeEvent _ _ _ _
  | closeSocketServer _ =>
    exact emits_commit (fun _ _ => trivial) fun _ _ _ _ _ => emits_pure

end Emits

lemma socketServer_rely : Rely (socketServer verifyAccessToken) (fun _ => True) Free Within
    fun _ => Emitted verifyAccessToken where
  refl := Within.refl
  trans := Within.trans
  env x _ := within_environ x
  commit _ _ _ := within_apply
  emits x _ _ := proc_emits x

/-! ## Runs -/

/-- Nobody has connected, and nothing was published. -/
structure Cluster.Started (s : Cluster) : Prop where
  sockets : ∀ id, s.sockets id = none
  relay : s.relay = Relay.empty

variable {s₀ : Cluster} {cfg : Config Cluster Commit String}

lemma sound_of_reachable (h₀ : s₀.Started)
    (hr : (socketServer verifyAccessToken).Reachable (fun _ => True) Free s₀ cfg) :
    Sound verifyAccessToken cfg.store := by
  refine socketServer_rely.invariant hr ⟨?_, fun hsocket => ?_⟩ (fun x _ hs => hs.environ x) ?_
  · rw [h₀.relay]
    exact Relay.accounted_empty
  · exact nomatch (h₀.sockets _).symm.trans hsocket
  · intro x s c s' _ hc _ happ hs
    exact hs.apply hc happ

/-- **A socket hears what its user was entitled to**, whatever the servers do at the same time: the
events of a user go to those who have presented an access token of the user, the events of an order
to those who may read every order and to the users that the order has had, and the events of the
administration to those who may join its rooms. -/
theorem received_entitled (h₀ : s₀.Started)
    (hr : (socketServer verifyAccessToken).Reachable (fun _ => True) Free s₀ cfg)
    {id : SocketId} {socket : Socket} (hsocket : cfg.store.sockets id = some socket)
    {e : Emission} (he : e ∈ socket.received) :
    (∀ userId, e.body.targetRoom = Room.user userId →
      ∃ payload, verifyAccessToken socket.token = some payload ∧ payload.userId = userId) ∧
    (∀ orderId, e.body.targetRoom = Room.order orderId →
      canJoinAdminRoom socket.user (some "order:read") = true ∨
        (orderId, socket.user.userId) ∈ cfg.store.owners) ∧
    (e.body.targetRoom ∈ Room.administration → canJoinAdminRoom socket.user none = true) := by
  have hsound := (sound_of_reachable h₀ hr).sockets hsocket
  have hentitled := hsound.received e he
  refine ⟨fun userId hroom => ?_, fun orderId hroom => ?_, entitled_administration hentitled⟩
  · obtain ⟨payload, htoken, huser⟩ := hsound.token
    exact ⟨payload, htoken, huser.trans (entitled_user (hroom ▸ hentitled))⟩
  · exact entitled_order (hroom ▸ hentitled)

/-! ### A customer who tracks an order -/

def lampToken (token : String) : Option AccessToken :=
  if token = "lamp-buyer" then some ⟨"u7", none, none⟩ else none

/-- Two servers, a customer and the order of the customer. -/
def twoServers : Cluster where
  contexts _ _ := none
  users userId := if userId = "u7" then some ⟨.active, [⟨"CUSTOMER", ["cart:read"]⟩]⟩ else none
  orders orderId := if orderId = "o1" then some (some "u7") else none
  owners := [("o1", "u7")]
  owned := by
    intro orderId userId h
    split_ifs at h with ho
    obtain rfl := Option.some.inj (Option.some.inj h)
    subst ho
    exact List.mem_singleton.mpr rfl
  sockets _ := none
  ready _ := true
  relay := Relay.empty

/-- The customer tracks the order at the server 0, and the server 1 publishes that it was shipped;
the message goes through Redis to both. -/
def tracking : List (Event Call Environment) :=
  [.call (.connection 3 0 (some "lamp-buyer")), .step 0 .ok, .step 0 .ok, .step 0 .ok,
    .call (.joinOrder 3 "o1"), .step 1 .ok, .step 1 .ok, .step 1 .ok,
    .call (.publishRealtimeEvent 1 "order:o1" "order.shipped" "null"), .step 2 .ok,
    .env (.forward 0 fun _ => true), .env (.message 1), .env (.message 0)]

lemma tracking_received : ∃ cfg : Config Cluster Commit String, ∃ socket,
    (socketServer lampToken).Reachable (fun _ => True) Free twoServers cfg ∧
      cfg.store.sockets 3 = some socket ∧ socket.token = "lamp-buyer" ∧
      socket.received = [⟨0, 1, "order:o1", "order.shipped", "null"⟩] := by
  obtain ⟨cfg, hr, hcfg⟩ := (socketServer lampToken).exists_reachable_of_exec (fun _ => True) Free
    tracking twoServers
    (fun s : Cluster => (s.sockets 3).map fun socket => (socket.token, socket.received))
    (some ("lamp-buyer", [⟨0, 1, "order:o1", "order.shipped", "null"⟩])) (by decide +kernel)
  obtain ⟨socket, hsocket, hheard⟩ := Option.map_eq_some_iff.mp hcfg
  obtain ⟨htoken, hreceived⟩ := Prod.ext_iff.mp hheard
  exact ⟨cfg, socket, hr, hsocket, htoken, hreceived⟩

lemma started_twoServers : twoServers.Started := ⟨fun _ => rfl, rfl⟩

/-- The customer hears of the order, which is the customer's. -/
theorem received_entitled_tracking : ∃ cfg : Config Cluster Commit String, ∃ socket,
    cfg.store.sockets 3 = some socket ∧ socket.received.length = 1 ∧
      (canJoinAdminRoom socket.user (some "order:read") = true ∨
        ("o1", socket.user.userId) ∈ cfg.store.owners) := by
  obtain ⟨cfg, socket, hr, hsocket, -, hreceived⟩ := tracking_received
  refine ⟨cfg, socket, hsocket, by rw [hreceived]; rfl, ?_⟩
  have he : (⟨0, 1, "order:o1", "order.shipped", "null"⟩ : Emission) ∈ socket.received := by
    rw [hreceived]
    exact List.mem_singleton.mpr rfl
  exact (received_entitled started_twoServers hr hsocket he).2.1 "o1" (by decide)

/-- **Each event is accounted for once**, as seen from a socket: it was emitted at its server before
the socket connected, or the socket has received it, or was not in the room, or has disconnected,
or it is on its way to the server, or it is lost to the server. -/
theorem published_accounted (h₀ : s₀.Started)
    (hr : (socketServer verifyAccessToken).Reachable (fun _ => True) Free s₀ cfg)
    {id : SocketId} {socket : Socket} (hsocket : cfg.store.sockets id = some socket) :
    (socket.before ++ socket.received ++ socket.absent ++ socket.after ++
      cfg.store.relay.pending socket.server ++ cfg.store.relay.lost socket.server).Perm
        cfg.store.relay.published ∧
      cfg.store.relay.published.Nodup := by
  have hsound := sound_of_reachable h₀ hr
  refine ⟨.trans ?_ (hsound.relay.perm socket.server), hsound.relay.nodup⟩
  have hheard : (socket.before ++ socket.received ++ socket.absent ++ socket.after).Perm
      (cfg.store.relay.emitted socket.server) :=
    Multiset.coe_eq_coe.mp (by simpa [Socket.history] using (hsound.sockets hsocket).heard)
  exact (hheard.append_right _).append_right _

/-- The customer hears of the order once, although the message reaches the server that has
published it, too. -/
theorem published_accounted_tracking : ∃ cfg : Config Cluster Commit String, ∃ socket,
    cfg.store.sockets 3 = some socket ∧ socket.received.length = 1 ∧
      (socket.before ++ socket.received ++ socket.absent ++ socket.after ++
        cfg.store.relay.pending socket.server ++ cfg.store.relay.lost socket.server).Perm
          cfg.store.relay.published ∧
      cfg.store.relay.published.Nodup := by
  obtain ⟨cfg, socket, hr, hsocket, -, hreceived⟩ := tracking_received
  exact ⟨cfg, socket, hsocket, by rw [hreceived]; rfl,
    published_accounted started_twoServers hr hsocket⟩

end MeeoServer.Sockets
