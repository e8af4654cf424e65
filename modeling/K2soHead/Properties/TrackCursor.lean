import K2soHead.Library.Rounds
import K2soHead.Library.Runs
import K2soHead.Properties.LoopFrames
import K2soHead.Properties.PlayerPackets

/-!
# One track cursor for the gamepad and the web

`playNext`, `playPrevious` and `replay` move `sCurrentTrack` each in its own way, and
`/api/play` writes it too.  `SharedCursor` collects what holds of all of them together; the
arithmetic of going round is `Rounds`.
-/

namespace K2soHead

open Runs

namespace AudioPlayer

/-! ## The tracks on the wire -/

/-- The track a play packet asks for. -/
def played? (bytes : List UInt8) : Option UInt16 :=
  if command? bytes = some kCmdPlayMp3Folder then param? bytes else none

/-- Every track asked for so far, oldest first. -/
def tracksPlayed (a : AudioPlayer) : List UInt16 := a.serial.filterMap played?

@[simp] theorem played?_packet (cmd : UInt8) (param : UInt16) :
    played? (packet cmd param) = if cmd = kCmdPlayMp3Folder then some param else none := by
  simp [played?]

theorem played?_setupIfDue (now : UInt32) (a : AudioPlayer) :
    (a.setupIfDue now).filterMap played? = [] := by
  have hselect : ¬ kCmdSelectDevice = kCmdPlayMp3Folder := by decide
  have hlevel : ¬ kCmdSetVolume = kCmdPlayMp3Folder := by decide
  unfold setupIfDue
  split <;> simp [setup, hselect, hlevel]

theorem tracksPlayed_play (now : UInt32) (track : UInt16) (a : AudioPlayer) :
    (a.play now track).tracksPlayed = a.tracksPlayed ++ [track] := by
  simp [play_eq, tracksPlayed, played?_setupIfDue]

theorem tracksPlayed_setVolume (now : UInt32) (volume : UInt8) (a : AudioPlayer) :
    (a.setVolume now volume).tracksPlayed = a.tracksPlayed := by
  have hlevel : ¬ kCmdSetVolume = kCmdPlayMp3Folder := by decide
  rw [setVolume_eq]
  simp only [tracksPlayed, List.filterMap_append, played?_setupIfDue]
  split <;> simp [hlevel]

theorem sCurrentTrack_setVolume (now : UInt32) (volume : UInt8) (a : AudioPlayer) :
    (a.setVolume now volume).sCurrentTrack = a.sCurrentTrack := by
  rw [setVolume_eq, ensureInitialized_eq]
  rfl

/-! ## The three ways round -/

theorem trackCount_pos_iff {b : Board} : 0 < (trackCount b).toNat ↔ trackCount b ≠ 0 := by
  rw [Nat.pos_iff_ne_zero, ne_eq, ne_eq, ← UInt16.toNat_inj]
  rfl

theorem toNat_nextTrack {count : UInt16} (hcount : count ≠ 0) (cursor : UInt16) :
    (cursor % count + 1).toNat = Rounds.next count.toNat cursor.toNat := by
  have hpos : 0 < count.toNat := Nat.pos_of_ne_zero fun h => hcount (UInt16.toNat_inj.mp h)
  have hlt := Nat.mod_lt cursor.toNat hpos
  have hmax := count.toNat_lt
  rw [UInt16.toNat_add, UInt16.toNat_mod, UInt16.toNat_one, Nat.mod_eq_of_lt (by omega)]
  rfl

theorem toNat_previousTrack (count cursor : UInt16) :
    (if cursor ≤ 1 then count else cursor - 1).toNat =
      Rounds.previous count.toNat cursor.toNat := by
  have hone : cursor ≤ 1 ↔ cursor.toNat ≤ 1 := UInt16.le_iff_toNat_le
  unfold Rounds.previous
  by_cases hfirst : cursor ≤ 1
  · rw [if_pos hfirst, if_pos (hone.mp hfirst)]
  · rw [if_neg hfirst, if_neg (hone.not.mp hfirst)]
    exact UInt16.toNat_sub_of_le _ _ (UInt16.le_of_lt (UInt16.not_le.mp hfirst))

/-! ## What one call plays -/

/-- Nothing played and nothing selected. -/
structure SameTape (a a' : AudioPlayer) : Prop where
  tracks : a'.tracksPlayed = a.tracksPlayed
  cursor : a'.sCurrentTrack = a.sCurrentTrack
  played_at : a'.sLastPlayCommandMs = a.sLastPlayCommandMs

/-- The cursor moved to a track of the board, and that track was asked for. -/
structure Plays (b : Board) (a a' : AudioPlayer) : Prop where
  tracks : a'.tracksPlayed = a.tracksPlayed ++ [a'.sCurrentTrack]
  first_le : 1 ≤ a'.sCurrentTrack.toNat
  le_last : a'.sCurrentTrack.toNat ≤ (trackCount b).toNat

theorem SameTape.refl (a : AudioPlayer) : SameTape a a := ⟨rfl, rfl, rfl⟩

theorem SameTape.of_eq {a a' : AudioPlayer} (h : a' = a) : SameTape a a' := h ▸ .refl a

theorem plays_play {b : Board} {track : UInt16} (hfirst : 1 ≤ track.toNat)
    (hlast : track.toNat ≤ (trackCount b).toNat) (now : UInt32) (a : AudioPlayer) :
    Plays b a (a.play now track) :=
  ⟨tracksPlayed_play now track a, hfirst, hlast⟩

/-- The cursor is on a track of the board, or on 0 while nothing was played. -/
structure Within (b : Board) (a : AudioPlayer) : Prop where
  cursor_le : a.sCurrentTrack.toNat ≤ (trackCount b).toNat
  tracks : ∀ track ∈ a.tracksPlayed, 1 ≤ track.toNat ∧ track.toNat ≤ (trackCount b).toNat
  unplayed : a.sCurrentTrack = 0 → a.tracksPlayed = []

theorem Within.of_same {b : Board} {a a' : AudioPlayer} (h : Within b a) (hsame : SameTape a a') :
    Within b a' where
  cursor_le := by rw [hsame.cursor]; exact h.cursor_le
  tracks := by rw [hsame.tracks]; exact h.tracks
  unplayed := by rw [hsame.cursor, hsame.tracks]; exact h.unplayed

theorem Within.of_plays {b : Board} {a a' : AudioPlayer} (h : Within b a) (hplays : Plays b a a') :
    Within b a' where
  cursor_le := hplays.le_last
  tracks track htrack := by
    rw [hplays.tracks] at htrack
    rcases List.mem_append.mp htrack with hold | hnew
    · exact h.tracks track hold
    · rw [List.mem_singleton.mp hnew]
      exact ⟨hplays.first_le, hplays.le_last⟩
  unplayed hzero := by
    have hfirst := hplays.first_le
    rw [hzero] at hfirst
    cases hfirst

/-- With tracks to play, each of the three plays the place the round names. -/
theorem plays_next {b : Board} (hcount : trackCount b ≠ 0) (now : UInt32) (a : AudioPlayer) :
    Plays b a (a.playNext b now) := by
  have hpos := trackCount_pos_iff.mpr hcount
  obtain ⟨hfirst, hlast⟩ := Rounds.next_mem (c := a.sCurrentTrack.toNat) hpos
  rw [← toNat_nextTrack hcount] at hfirst hlast
  rw [playNext, if_neg hcount]
  exact plays_play hfirst hlast now a

theorem plays_previous {b : Board} (hcount : trackCount b ≠ 0) (now : UInt32) {a : AudioPlayer}
    (h : Within b a) : Plays b a (a.playPrevious b now) := by
  have hpos := trackCount_pos_iff.mpr hcount
  obtain ⟨hfirst, hlast⟩ := Rounds.previous_mem hpos h.cursor_le
  rw [← toNat_previousTrack] at hfirst hlast
  rw [playPrevious, if_neg hcount]
  exact plays_play hfirst hlast now a

theorem plays_replay {b : Board} (hcount : trackCount b ≠ 0) (now : UInt32) {a : AudioPlayer}
    (h : Within b a) : Plays b a (a.replay b now) := by
  have hpos := trackCount_pos_iff.mpr hcount
  rw [replay, if_neg hcount]
  by_cases hunplayed : a.sCurrentTrack = 0
  · rw [if_pos hunplayed]
    have hone : 1 ≤ (1 : UInt16).toNat := Nat.le_refl 1
    exact plays_play hone hpos now a
  · rw [if_neg hunplayed]
    have hcursor : 0 < a.sCurrentTrack.toNat :=
      Nat.pos_of_ne_zero fun h => hunplayed (UInt16.toNat_inj.mp h)
    exact plays_play hcursor h.cursor_le now a

/-- Without tracks none of them does anything. -/
theorem idle_of_no_tracks {b : Board} (hcount : trackCount b = 0) (now : UInt32)
    (a : AudioPlayer) : a.playNext b now = a ∧ a.playPrevious b now = a ∧ a.replay b now = a :=
  ⟨if_pos hcount, if_pos hcount, if_pos hcount⟩

end AudioPlayer

/-! ## Requests -/

namespace WebUI

/-- A request that is refused leaves the whole head as it was, and one that is not plays. -/
theorem play_request (b : Board) (now : UInt32) (h : Head) (track : Option ℤ) :
    ((dispatch b now h (.play track)).2.code ≠ 200 ∧ (dispatch b now h (.play track)).1 = h) ∨
      ((dispatch b now h (.play track)).2 = ok ∧
        AudioPlayer.Plays b h.audio (dispatch b now h (.play track)).1.audio) := by
  have hbad : ∀ text, (bad text).code ≠ 200 := by
    intro text
    have hcodes : (400 : ℕ) ≠ 200 := by decide
    exact hcodes
  simp only [dispatch, handlePlay]
  split
  · cases track with
    | none => exact .inl ⟨hbad _, rfl⟩
    | some track =>
      by_cases hrange : track < 1 ∨ track > (AudioPlayer.trackCount b).toNat
      · simp only [if_pos hrange]
        exact .inl ⟨hbad _, trivial⟩
      · simp only [if_neg hrange]
        -- a track that passes the test fits the cursor
        have hmax := (AudioPlayer.trackCount b).toNat_lt
        have htrack : (UInt16.ofInt track).toNat = track.toNat := by
          rw [UInt16.ofInt, UInt16.toNat_ofNat']
          omega
        exact .inr ⟨trivial, AudioPlayer.plays_play (by omega) (by omega) now h.audio⟩
  · have hcodes : (404 : ℕ) ≠ 200 := by decide
    exact .inl ⟨hcodes, rfl⟩

/-- No other request touches the cursor. -/
theorem sameTape_dispatch (b : Board) (now : UInt32) (h : Head) {r : HttpRequest}
    (hr : ∀ track, r ≠ .play track) :
    AudioPlayer.SameTape h.audio (dispatch b now h r).1.audio := by
  have hsame := AudioPlayer.SameTape.refl h.audio
  have hserved := served_dispatch b now h r
  generalize (dispatch b now h r).1 = h' at hserved
  cases hserved with
  | nothing => exact hsame
  | effect value index => exact hsame
  | color hex c => exact hsame
  | brightness value level => exact hsame
  | play value track => exact absurd rfl (hr value)
  | volume value level =>
    refine ⟨AudioPlayer.tracksPlayed_setVolume now _ _,
      AudioPlayer.sCurrentTrack_setVolume now _ _, ?_⟩
    rw [AudioPlayer.setVolume_eq, AudioPlayer.ensureInitialized_eq]
    rfl
  | eyeTrim pan tilt m => exact hsame

end WebUI

/-! ## Every interleaving -/

/-- What reaches the cursor: the gamepad's three calls, and a request of any kind. -/
inductive TrackEvent where
  | next (now : UInt32)
  | previous (now : UInt32)
  | replay (now : UInt32)
  | request (now : UInt32) (r : HttpRequest)

namespace TrackEvent

def step (b : Board) (h : Head) : TrackEvent → Head
  | next now => { h with audio := h.audio.playNext b now }
  | previous now => { h with audio := h.audio.playPrevious b now }
  | replay now => { h with audio := h.audio.replay b now }
  | request now r => WebUI.serve b now h r

/-- An event leaves the cursor alone, or moves it to the track it asks for. -/
def Law (b : Board) (h : Head) (e : TrackEvent) : Prop :=
  AudioPlayer.SameTape h.audio (step b h e).audio ∨
    AudioPlayer.Plays b h.audio (step b h e).audio

theorem law {b : Board} {h : Head} (hin : AudioPlayer.Within b h.audio) (e : TrackEvent) :
    Law b h e := by
  cases e with
  | next now =>
    by_cases hcount : AudioPlayer.trackCount b = 0
    · exact .inl (.of_eq (AudioPlayer.idle_of_no_tracks hcount now h.audio).1)
    · exact .inr (AudioPlayer.plays_next hcount now h.audio)
  | previous now =>
    by_cases hcount : AudioPlayer.trackCount b = 0
    · exact .inl (.of_eq (AudioPlayer.idle_of_no_tracks hcount now h.audio).2.1)
    · exact .inr (AudioPlayer.plays_previous hcount now hin)
  | replay now =>
    by_cases hcount : AudioPlayer.trackCount b = 0
    · exact .inl (.of_eq (AudioPlayer.idle_of_no_tracks hcount now h.audio).2.2)
    · exact .inr (AudioPlayer.plays_replay hcount now hin)
  | request now r =>
    by_cases hplay : ∃ track, r = .play track
    · obtain ⟨track, rfl⟩ := hplay
      rcases WebUI.play_request b now h track with ⟨-, hsame⟩ | ⟨-, hplays⟩
      · have hserve : (step b h (.request now (.play track))).audio =
            (WebUI.dispatch b now h (.play track)).1.audio := rfl
        exact .inl (.of_eq (by rw [hserve, hsame]))
      · exact .inr hplays
    · exact .inl (WebUI.sameTape_dispatch b now h fun track heq => hplay ⟨track, heq⟩)

theorem within_step {b : Board} {h : Head} (hin : AudioPlayer.Within b h.audio) (e : TrackEvent) :
    AudioPlayer.Within b (step b h e).audio := by
  rcases law hin e with hsame | hplays
  · exact hin.of_same hsame
  · exact hin.of_plays hplays

/-- `setup()` plays nothing. -/
theorem within_setup (b : Board) (t : ℕ) (d : RearmDraws) :
    AudioPlayer.Within b (Sketch.setup b t d).audio := by
  have hfresh : ∀ a : AudioPlayer, a.sCurrentTrack = 0 → a.tracksPlayed = [] →
      AudioPlayer.Within b a := by
    intro a hcursor htracks
    refine ⟨?_, ?_, fun _ => htracks⟩
    · rw [hcursor]
      exact Nat.zero_le _
    · rw [htracks]
      rintro track ⟨⟩
  simp only [Sketch.setup]
  cases b.audio with
  | none => exact hfresh _ rfl rfl
  | some pins =>
    refine hfresh _ ?_ ?_
    · exact AudioPlayer.sCurrentTrack_setVolume _ _ _
    · exact AudioPlayer.tracksPlayed_setVolume _ _ _

/-! ## Full rounds -/

/-- Calls that each play the place `f` names play the places `f` visits. -/
theorem tracksPlayed_foldl {call : AudioPlayer → UInt32 → AudioPlayer} {f : ℕ → ℕ}
    (hcall : ∀ a now, ∃ track : UInt16, call a now = a.play now track ∧
      track.toNat = f a.sCurrentTrack.toNat)
    (nows : List UInt32) (a : AudioPlayer) :
    ∃ tracks : List UInt16, (nows.foldl call a).tracksPlayed = a.tracksPlayed ++ tracks ∧
      tracks.map UInt16.toNat = Rounds.visits f a.sCurrentTrack.toNat nows.length := by
  induction nows generalizing a with
  | nil => exact ⟨[], (List.append_nil _).symm, rfl⟩
  | cons now nows ih =>
    obtain ⟨track, hplay, htrack⟩ := hcall a now
    obtain ⟨tracks, hplayed, hvisits⟩ := ih (call a now)
    refine ⟨track :: tracks, ?_, ?_⟩
    · rw [List.foldl_cons, hplayed, hplay, AudioPlayer.tracksPlayed_play, List.append_assoc]
      rfl
    · have hcursor : (a.play now track).sCurrentTrack = track := rfl
      rw [hplay, hcursor, htrack] at hvisits
      rw [List.map_cons, hvisits, List.length_cons, Rounds.visits, htrack]

/-- As many calls as there are tracks, each going one place round. -/
theorem full_round {b : Board} {call : AudioPlayer → UInt32 → AudioPlayer} {f : ℕ → ℕ}
    (hcall : AudioPlayer.trackCount b ≠ 0 → ∀ a now, ∃ track : UInt16,
      call a now = a.play now track ∧ track.toNat = f a.sCurrentTrack.toNat)
    {a : AudioPlayer} {nows : List UInt32} (hnows : nows.length = (AudioPlayer.trackCount b).toNat)
    (hround : (Rounds.visits f a.sCurrentTrack.toNat nows.length).Perm
      (List.range' 1 nows.length)) :
    ∃ tracks : List UInt16, (nows.foldl call a).tracksPlayed = a.tracksPlayed ++ tracks ∧
      (tracks.map UInt16.toNat).Perm (List.range' 1 (AudioPlayer.trackCount b).toNat) := by
  rw [← hnows]
  by_cases hcount : AudioPlayer.trackCount b = 0
  · rw [hcount] at hnows
    obtain rfl := List.eq_nil_of_length_eq_zero hnows
    exact ⟨[], (List.append_nil _).symm, .refl _⟩
  · obtain ⟨tracks, hplayed, hvisits⟩ := tracksPlayed_foldl (hcall hcount) nows a
    exact ⟨tracks, hplayed, hvisits ▸ hround⟩

/-! ## The law -/

/-- What the gamepad and the web keep of the one cursor they share. -/
structure SharedCursor (b : Board) : Prop where
  /-- after every interleaving the cursor is on a track, or on 0 with nothing played -/
  within : ∀ t d events, AudioPlayer.Within b (run (step b) (Sketch.setup b t d) events).audio
  /-- what an event plays is the new cursor -/
  plays : ∀ t d events, Along (step b) (Law b) (Sketch.setup b t d) events
  rejected : ∀ now h track, (WebUI.dispatch b now h (.play track)).2.code ≠ 200 →
    (WebUI.dispatch b now h (.play track)).1 = h
  previous_next : ∀ (a : AudioPlayer) now now', 1 ≤ a.sCurrentTrack.toNat →
    a.sCurrentTrack.toNat ≤ (AudioPlayer.trackCount b).toNat →
    ((a.playNext b now).playPrevious b now').sCurrentTrack = a.sCurrentTrack
  next_previous : ∀ (a : AudioPlayer) now now', 1 ≤ a.sCurrentTrack.toNat →
    a.sCurrentTrack.toNat ≤ (AudioPlayer.trackCount b).toNat →
    ((a.playPrevious b now).playNext b now').sCurrentTrack = a.sCurrentTrack
  next_round : ∀ (a : AudioPlayer) (nows : List UInt32),
    nows.length = (AudioPlayer.trackCount b).toNat →
    ∃ tracks : List UInt16,
      (nows.foldl (fun a now => a.playNext b now) a).tracksPlayed = a.tracksPlayed ++ tracks ∧
        (tracks.map UInt16.toNat).Perm (List.range' 1 (AudioPlayer.trackCount b).toNat)
  previous_round : ∀ (a : AudioPlayer) (nows : List UInt32),
    a.sCurrentTrack.toNat ≤ (AudioPlayer.trackCount b).toNat →
    nows.length = (AudioPlayer.trackCount b).toNat →
    ∃ tracks : List UInt16,
      (nows.foldl (fun a now => a.playPrevious b now) a).tracksPlayed = a.tracksPlayed ++ tracks ∧
        (tracks.map UInt16.toNat).Perm (List.range' 1 (AudioPlayer.trackCount b).toNat)
  no_tracks : AudioPlayer.trackCount b = 0 → ∀ (a : AudioPlayer) now,
    a.playNext b now = a ∧ a.playPrevious b now = a ∧ a.replay b now = a

theorem playNext_round {b : Board} (hcount : AudioPlayer.trackCount b ≠ 0) (a : AudioPlayer)
    (now : UInt32) : ∃ track : UInt16, a.playNext b now = a.play now track ∧
      track.toNat = Rounds.next (AudioPlayer.trackCount b).toNat a.sCurrentTrack.toNat :=
  ⟨_, if_neg hcount, AudioPlayer.toNat_nextTrack hcount a.sCurrentTrack⟩

theorem playPrevious_round {b : Board} (hcount : AudioPlayer.trackCount b ≠ 0) (a : AudioPlayer)
    (now : UInt32) : ∃ track : UInt16, a.playPrevious b now = a.play now track ∧
      track.toNat = Rounds.previous (AudioPlayer.trackCount b).toNat a.sCurrentTrack.toNat :=
  ⟨_, if_neg hcount, AudioPlayer.toNat_previousTrack _ a.sCurrentTrack⟩

/-- On every board the gamepad and the web share one cursor. -/
theorem shared_cursor (b : Board) : SharedCursor b where
  within t d events := by
    have hstep : ∀ (h : Head) (e : TrackEvent), AudioPlayer.Within b h.audio →
        AudioPlayer.Within b (step b h e).audio := fun _ e hin => within_step hin e
    exact inv_run hstep (within_setup b t d) events
  plays t d events := by
    have hkeep : ∀ (h : Head) (e : TrackEvent), AudioPlayer.Within b h.audio → True →
        AudioPlayer.Within b (step b h e).audio := fun _ e hin _ => within_step hin e
    have hfree : Along (step b) (fun _ _ => True) (Sketch.setup b t d) events :=
      along_of_forall_mem (fun _ _ => trivial) _
    exact along_of_inv hkeep (fun _ e hin _ => law hin e) (within_setup b t d) hfree
  rejected now h track hcode := by
    rcases WebUI.play_request b now h track with ⟨-, hsame⟩ | ⟨hok, -⟩
    · exact hsame
    · rw [hok] at hcode
      exact absurd rfl hcode
  previous_next a now now' hfirst hlast := by
    have hcount := AudioPlayer.trackCount_pos_iff.mp (hfirst.trans hlast)
    obtain ⟨track, hplay, htrack⟩ := playNext_round hcount a now
    obtain ⟨track', hplay', htrack'⟩ := playPrevious_round hcount (a.play now track) now'
    rw [hplay, hplay']
    refine UInt16.toNat_inj.mp ?_
    have hcursor : (a.play now track).sCurrentTrack = track := rfl
    rw [hcursor, htrack, Rounds.previous_next hfirst hlast] at htrack'
    exact htrack'
  next_previous a now now' hfirst hlast := by
    have hcount := AudioPlayer.trackCount_pos_iff.mp (hfirst.trans hlast)
    obtain ⟨track, hplay, htrack⟩ := playPrevious_round hcount a now
    obtain ⟨track', hplay', htrack'⟩ := playNext_round hcount (a.play now track) now'
    rw [hplay, hplay']
    refine UInt16.toNat_inj.mp ?_
    have hcursor : (a.play now track).sCurrentTrack = track := rfl
    rw [hcursor, htrack, Rounds.next_previous hfirst hlast] at htrack'
    exact htrack'
  next_round a nows hnows := by
    refine full_round playNext_round hnows ?_
    rw [hnows]
    exact Rounds.visits_next_perm _ _
  previous_round a nows hcursor hnows := by
    refine full_round playPrevious_round hnows ?_
    rw [hnows]
    exact Rounds.visits_previous_perm hcursor
  no_tracks hcount a now := AudioPlayer.idle_of_no_tracks hcount now a

end TrackEvent

end K2soHead
