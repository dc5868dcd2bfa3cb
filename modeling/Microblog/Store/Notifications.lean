import Microblog.Page
import Microblog.Store.Insert

/-!
# Notifications in the store

Statements on notifications: adding one, listing those of a user with the newest first, counting
those that are unread, and marking all of them read.
-/

set_option autoImplicit false

namespace Microblog

/-- What a notification is to say. -/
structure NewNotification where
  recipientId : Int
  actorId : Int
  tweetId : Option Int
  kind : NotificationKind
deriving DecidableEq, Repr

namespace Store

/-- Add a notification. -/
def createNotification (now : Nat) (new : NewNotification) (s : Store) :
    Except StoreError (Notification × Store) := do
  let (id, s) ← during "insert notification" <| s.insertNotification {
    recipientId := some (.int new.recipientId)
    actorId := some (.int new.actorId)
    tweetId := new.tweetId.map .int
    kind := some new.kind.name
    createdAt := some (stamp now) }
  let n ← during "fetch inserted notification" <|
    (s.notifications.get? id).elim (.error .noRow) StoredNotification.read
  return (n, s)

/-- The notifications of a user. -/
def listNotifications (recipient : Int) (page : Page) (s : Store) :
    Except StoreError (List Notification) :=
  during "list notifications" do
    s.require [.notifications]
    let found := s.notifications.list.filter (·.recipientId = recipient)
    (page.of (found.mergeSort StoredNotification.isNewer)).mapM StoredNotification.read

/-- The number of notifications that a user has not read. -/
def countUnread (recipient : Int) (s : Store) : Except StoreError Nat :=
  during "count unread notifications" do
    s.require [.notifications]
    return (s.notifications.list.filter (·.isUnreadBy recipient)).length

/-- Mark all notifications of a user as read; gives the number of those that were not. -/
def markRead (recipient : Int) (s : Store) : Except StoreError (Nat × Store) := do
  during "mark notifications read" (s.require [.notifications])
  let notifications :=
    s.notifications.change (·.markedBy recipient) fun n ↦ n.id_markedBy recipient
  return ((s.notifications.list.filter (·.isUnreadBy recipient)).length, { s with notifications })

end Store

end Microblog
