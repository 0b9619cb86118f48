/-
# Rooms

`sockets/socket.rooms.ts`: the names of the rooms, which isolate broadcasts to only authorized
connected sockets, and who may join them.
-/
import Mathlib.Data.List.Basic

namespace MeeoServer.Sockets

structure SocketUserContext where
  userId : String
  email : Option String
  roles : List String
  permissions : List String
deriving DecidableEq

/-! ## Names -/

namespace Room

def user (userId : String) : String := "user:" ++ userId
def order (orderId : String) : String := "order:" ++ orderId
def admin : String := "admin"
def adminOrders : String := "admin:orders"
def adminInventory : String := "admin:inventory"
def adminPayments : String := "admin:payments"
def adminLogs : String := "admin:logs"

/-- The rooms of the administration. -/
def administration : List String := [admin, adminOrders, adminInventory, adminPayments, adminLogs]

lemma user_injective : Function.Injective user := fun a b h => by simpa [user] using h

lemma order_injective : Function.Injective order := fun a b h => by simpa [order] using h

lemma head_user (userId : String) : (user userId).toList.head? = some 'u' := by
  simp [user, String.toList_append]

lemma head_order (orderId : String) : (order orderId).toList.head? = some 'o' := by
  simp [order, String.toList_append]

lemma head_administration {room : String} (h : room ∈ administration) :
    room.toList.head? = some 'a' := by
  have hall : ∀ room ∈ administration, room.toList.head? = some 'a' := by decide
  exact hall room h

lemma user_ne_order (userId orderId : String) : user userId ≠ order orderId := fun h => by
  have hhead := (head_user userId).symm.trans (h ▸ head_order orderId)
  exact absurd hhead (by decide)

lemma user_not_mem (userId : String) : user userId ∉ administration := fun h => by
  have hhead := (head_user userId).symm.trans (head_administration h)
  exact absurd hhead (by decide)

lemma order_not_mem (orderId : String) : order orderId ∉ administration := fun h => by
  have hhead := (head_order orderId).symm.trans (head_administration h)
  exact absurd hhead (by decide)

end Room

/-! ## Who may join -/

/-- Checks if a user has sufficient administrative privileges to join admin rooms. -/
def canJoinAdminRoom (user : SocketUserContext) (requiredPermission : Option String) : Bool :=
  if user.roles.contains "SUPER_ADMIN" || user.permissions.contains "system:manage" then true
  else if user.roles.contains "ADMIN" then true
  else
    match requiredPermission with
    | some permission => permission ≠ "" && user.permissions.contains permission
    | none => false

/-- Validates whether a user can subscribe to a specific order room. -/
def canJoinOrderRoom (user : SocketUserContext) (orderOwnerId : String) : Bool :=
  if canJoinAdminRoom user (some "order:read") then true else user.userId = orderOwnerId

/-- What a user is entitled to hear in a room; `owners` are the users an order has ever had. -/
inductive Entitled (owners : List (String × String)) (user : SocketUserContext) : String → Prop
  | personal : Entitled owners user (Room.user user.userId)
  | reader {orderId} : canJoinAdminRoom user (some "order:read") = true →
      Entitled owners user (Room.order orderId)
  | owner {orderId} : (orderId, user.userId) ∈ owners → Entitled owners user (Room.order orderId)
  | admin {room} : room ∈ Room.administration → canJoinAdminRoom user none = true →
      Entitled owners user room

section

variable {owners owners' : List (String × String)} {user : SocketUserContext} {room : String}

lemma Entitled.mono (h : Entitled owners user room) (hsub : owners ⊆ owners') :
    Entitled owners' user room := by
  cases h with
  | personal => exact .personal
  | reader hread => exact .reader hread
  | owner howner => exact .owner (hsub howner)
  | admin hmem hadmin => exact .admin hmem hadmin

lemma entitled_user {userId : String} (h : Entitled owners user (Room.user userId)) :
    user.userId = userId := by
  generalize hroom : Room.user userId = room at h
  cases h with
  | personal => exact (Room.user_injective hroom).symm
  | reader _ => exact absurd hroom (Room.user_ne_order _ _)
  | owner _ => exact absurd hroom (Room.user_ne_order _ _)
  | admin hmem _ => exact absurd (hroom ▸ hmem) (Room.user_not_mem _)

lemma entitled_order {orderId : String} (h : Entitled owners user (Room.order orderId)) :
    canJoinAdminRoom user (some "order:read") = true ∨ (orderId, user.userId) ∈ owners := by
  generalize hroom : Room.order orderId = room at h
  cases h with
  | personal => exact absurd hroom.symm (Room.user_ne_order _ _)
  | reader hread => exact Or.inl hread
  | owner howner => exact Or.inr (Room.order_injective hroom ▸ howner)
  | admin hmem _ => exact absurd (hroom ▸ hmem) (Room.order_not_mem _)

lemma entitled_administration (h : Entitled owners user room) (hmem : room ∈ Room.administration) :
    canJoinAdminRoom user none = true := by
  cases h with
  | personal => exact absurd hmem (Room.user_not_mem _)
  | reader _ => exact absurd hmem (Room.order_not_mem _)
  | owner _ => exact absurd hmem (Room.order_not_mem _)
  | admin _ hadmin => exact hadmin

end

end MeeoServer.Sockets
