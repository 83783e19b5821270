import StationChat.Gateway.Sending

/-! Encoding a response only reads, and comes to its end if the response's pointers are good. -/
namespace StationChat
open Lib Lib.Action Lib.Contract

variable {P : Exn → Prop} {s : Server}

/-- The contract of an encoder: the state stays as it is and nothing is thrown. -/
def encoding (P : Exn → Prop) : Contract Server Exn where
  inv := Fit P
  step s t := t = s
  allowed _ := False
  refl _ := rfl
  trans h h' := h'.trans h

/-- What the encoder of a response follows is there. Only the room summaries are encoded without
asking for success first. -/
def Response.Ready (cache : List ChatAvatar) (rooms : Nat) (r : Response) : Prop :=
  match r.type with
  | .loginAvatar | .setAvatarAttributes | .getAnyAvatar =>
    r.result = .success → Good cache r.avatar
  | .createRoom | .getRoom => r.result = .success → ∃ room, r.room = some room ∧ room < rooms
  | .friendStatus | .ignoreStatus =>
    r.result = .success → ∀ p, r.avatar = some p → Live cache p
  | .getRoomSummaries => ∀ room ∈ r.rooms, room < rooms
  | .getPersistentMessage => r.result = .success → r.message.isSome
  | _ => True

theorem Response.ready_of_failed {cache : List ChatAvatar} {rooms : Nat} {r : Response}
    (hfailed : r.result ≠ .success) (htype : r.type ≠ .getRoomSummaries) : r.Ready cache rooms := by
  unfold Response.Ready
  cases h : r.type <;> first | trivial | exact fun hok => absurd hok hfailed

section Encoders
variable {p : AvatarPtr}

theorem encoding_readAvatar (hs : Fit P s) (hp : Live s.avatarCache p) :
    (encoding P).Holds (readAvatar p) s fun a _ => a ∈ s.avatarCache := by
  obtain ⟨a, hmem, _, hread⟩ := readAvatar_of_live hs.allocated hp
  exact Ends.of_run hread ⟨hs, rfl, hmem⟩

theorem encoding_deref {avatar : Option AvatarPtr} (hs : Fit P s) (ha : Good s.avatarCache avatar) :
    (encoding P).Holds (deref avatar) s fun p _ => Live s.avatarCache p := by
  obtain ⟨p, rfl, hp⟩ := ha
  exact holds_pure hs hp

theorem encoding_readRoom {room : RoomPtr} (hs : Fit P s) (h : room < s.rooms.length) :
    (encoding P).Holds (readRoom room) s fun r _ => r ∈ s.rooms := by
  obtain ⟨r, hget, hread⟩ := readRoom_run h
  exact Ends.of_run hread ⟨hs, rfl, List.mem_of_getElem? hget⟩

theorem encoding_readAvatars {l : List AvatarPtr} (hs : Fit P s)
    (hl : ∀ p ∈ l, Live s.avatarCache p) :
    (encoding P).Holds (l.mapM readAvatar) s fun _ _ => True := by
  refine holds_mapM l hs fun p hp t ht heq => ?_
  obtain rfl : t = s := heq
  exact (encoding_readAvatar ht (hl p hp)).mono fun _ _ _ _ _ => trivial

/-- All seven lists of a room can be followed. -/
theorem encoding_roomImage {r : ChatRoom} (hs : Fit P s)
    (hr : ∀ p ∈ r.pointers, Live s.avatarCache p) :
    (encoding P).Holds (roomImage r) s fun _ _ => True := by
  simp only [ChatRoom.pointers, List.mem_append, or_imp, forall_and] at hr
  obtain ⟨h1, h2, h3, h4, h5, h6, h7⟩ := hr
  refine (encoding_readAvatars hs h1).bind fun _ t ht heq _ => ?_
  obtain rfl : t = s := heq
  refine (encoding_readAvatars ht h2).bind fun _ s ht heq _ => ?_
  obtain rfl := heq
  refine (encoding_readAvatars ht h3).bind fun _ s ht heq _ => ?_
  obtain rfl := heq
  refine (encoding_readAvatars ht h4).bind fun _ s ht heq _ => ?_
  obtain rfl := heq
  refine (encoding_readAvatars ht h5).bind fun _ s ht heq _ => ?_
  obtain rfl := heq
  refine (encoding_readAvatars ht h6).bind fun _ s ht heq _ => ?_
  obtain rfl := heq
  exact (encoding_readAvatars ht h7).bind fun _ _ hu _ _ => holds_pure hu trivial

theorem encoding_friendEntries {l : List FriendContact} (hs : Fit P s)
    (hl : ∀ c ∈ l, Good s.avatarCache c.frnd) :
    (encoding P).Holds (l.mapM friendEntry) s fun _ _ => True := by
  refine holds_mapM l hs fun c hc t ht heq => ?_
  obtain rfl : t = s := heq
  refine (encoding_deref ht (hl c hc)).bind fun p t ht heq hp => ?_
  obtain rfl := heq
  exact (encoding_readAvatar ht hp).bind fun _ _ hu _ _ => holds_pure hu trivial

theorem encoding_ignoreEntries {l : List IgnoreContact} (hs : Fit P s)
    (hl : ∀ c ∈ l, Good s.avatarCache c.ignored) :
    (encoding P).Holds (l.mapM ignoreEntry) s fun _ _ => True := by
  refine holds_mapM l hs fun c hc t ht heq => ?_
  obtain rfl : t = s := heq
  exact (encoding_deref ht (hl c hc)).bind fun _ _ hu _ _ => holds_pure hu trivial

/-- The part of a response that follows its avatar pointer. -/
theorem encoding_avatarBody {r : Response} {f : ChatAvatar → ResponseBody} {other : ResponseBody}
    (hs : Fit P s) (hr : r.result = .success → Good s.avatarCache r.avatar) :
    (encoding P).Holds (if r.result = .success then do
      pure (f (← readAvatar (← deref r.avatar))) else pure other) s fun _ _ => True := by
  refine holds_ite (fun hok => ?_) fun _ => holds_pure hs trivial
  refine (encoding_deref hs (hr hok)).bind fun p t ht heq hp => ?_
  obtain rfl := heq
  exact (encoding_readAvatar ht hp).bind fun _ _ hu _ _ => holds_pure hu trivial

theorem encoding_roomBody {r : Response} (hs : Fit P s)
    (hr : r.result = .success → ∃ room, r.room = some room ∧ room < s.rooms.length) :
    (encoding P).Holds (if r.result = .success then do
      pure (.room (← roomImage (← readRoom (← deref r.room)))) else pure ResponseBody.empty) s
      fun _ _ => True := by
  refine holds_ite (fun hok => ?_) fun _ => holds_pure hs trivial
  obtain ⟨room, hroom, hlt⟩ := hr hok
  rw [hroom]
  change (encoding P).Holds (readRoom room >>= _) s _
  refine (encoding_readRoom hs hlt).bind fun r t ht heq hmem => ?_
  obtain rfl := heq
  exact (encoding_roomImage ht (ht.1.rooms r hmem)).bind fun _ _ hu _ _ => holds_pure hu trivial

/-- Encoding a ready response ends normally. -/
theorem encoding_responseBody {r : Response} (hs : Fit P s)
    (hr : r.Ready s.avatarCache s.rooms.length) :
    (encoding P).Holds (responseBody r) s fun _ _ => True := by
  unfold responseBody
  unfold Response.Ready at hr
  cases htype : r.type <;> simp only [htype] at hr ⊢
  case loginAvatar | setAvatarAttributes | getAnyAvatar => exact encoding_avatarBody hs hr
  case createRoom | getRoom => exact encoding_roomBody hs hr
  case friendStatus =>
    split
    · rename_i p hok havatar
      refine (encoding_readAvatar hs (hr hok p havatar)).bind fun a t ht heq hmem => ?_
      obtain rfl := heq
      refine (encoding_friendEntries ht (ht.1.friends a hmem)).bind fun _ _ hu _ _ => ?_
      exact holds_pure hu trivial
    · exact holds_pure hs trivial
  case ignoreStatus =>
    split
    · rename_i p hok havatar
      refine (encoding_readAvatar hs (hr hok p havatar)).bind fun a t ht heq hmem => ?_
      obtain rfl := heq
      refine (encoding_ignoreEntries ht (ht.1.ignored a hmem)).bind fun _ _ hu _ _ => ?_
      exact holds_pure hu trivial
    · exact holds_pure hs trivial
  case getRoomSummaries =>
    refine (holds_mapM r.rooms hs fun room hmem t ht heq => ?_).bind fun _ _ hu _ _ =>
      holds_pure hu trivial
    obtain rfl : t = s := heq
    exact (encoding_readRoom ht (hr room hmem)).bind fun _ _ hu _ _ => holds_pure hu trivial
  case getPersistentMessage =>
    refine holds_ite (fun hok => ?_) fun _ => holds_pure hs trivial
    obtain ⟨message, hmessage⟩ := Option.isSome_iff_exists.mp (hr hok)
    rw [hmessage]
    exact holds_pure hs trivial
  case sendPersistentMessage =>
    exact holds_ite (fun _ => holds_pure hs trivial) fun _ => holds_pure hs trivial
  all_goals exact holds_pure hs trivial

end Encoders
end StationChat
