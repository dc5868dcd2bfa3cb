import Microblog.Social.Basic

/-!
# Inbox

What a user does with their notifications: list them, count the unread ones, and mark all as read.
-/

set_option autoImplicit false

namespace Microblog.Action

/-- The notifications of a user. -/
def notifications (user : Int) (page : Page) : Action (List Notification) :=
  ask (Store.listNotifications user page)

/-- The number of notifications that a user has not read. -/
def unreadCount (user : Int) : Action Nat := ask (Store.countUnread user)

/-- Mark all notifications of a user as read; gives the number of those that were not. -/
def markRead (user : Int) : Action Nat := change fun _ ↦ Store.markRead user

end Microblog.Action
