import HeatingHub.Proofs.Station.Attempt
import HeatingHub.Proofs.Station.Loading
import HeatingHub.Proofs.Text.Slice

/-!
# The end of a log, in parts

A station that shows its log cuts the end off it, and then cuts the end into parts. Wherever it cuts
it stands between two characters, so that nothing is lost and nothing is sent twice: put together,
the parts are the longest end of the log that is short enough to be sent (`cutting_keeps_text`).
-/

namespace HeatingHub.Station

/-- What is cut off a text byte by byte is found at boundaries. The start of a text, cut to a width,
is the longest start that fits, and its end the longest end. Its chunks put together are the text;
none of them is empty, and each fits or is a single character that does not. So the texts that a
station tries to send for its log are, put together, the longest end of the log of at most 2048
bytes. None of them has more than 512 bytes, and none but the last fewer than 509. -/
theorem cutting_keeps_text :
    (∀ limit text, Text.truncate? limit text =
        some (String.ofList (Text.keepFirst limit text.toList)) ∧
      Text.LongestStart limit text.toList (Text.keepFirst limit text.toList)) ∧
    (∀ limit text, Text.tail? limit text =
        some (String.ofList (Text.keepLast limit text.toList)) ∧
      Text.LongestEnd limit text.toList (Text.keepLast limit text.toList)) ∧
    (∀ limit text, Text.chunks? limit text =
        some ((Text.pieces limit text.toList).map String.ofList) ∧
      (Text.pieces limit text.toList).flatten = text.toList ∧
      ∀ part ∈ Text.pieces limit text.toList, part ≠ [] ∧
        (Text.width part ≤ limit ∨ ∃ c, part = [c] ∧ limit < c.utf8Size)) ∧
    ∀ (station : Station) (secret : String) (sms : Sms) (logs : String),
      station.ShowsLog sms logs →
      ∃ last texts, Text.tail? 2048 logs = some last ∧ Text.chunks? 512 last = some texts ∧
        Replies sms.number station texts (station.receive secret sms) ∧
        Text.LongestEnd 2048 logs.toList (String.join texts).toList ∧
        (∀ text ∈ texts, text.utf8ByteSize ≤ 512) ∧
        ∀ text ∈ texts.dropLast, 509 ≤ text.utf8ByteSize := by
  refine ⟨fun limit text => ⟨Text.truncate?_eq limit text, Text.keepFirst_longest limit _⟩,
    fun limit text => ⟨Text.tail?_eq limit text, Text.keepLast_longest limit _⟩,
    fun limit text => ⟨Text.chunks?_eq limit text, Text.flatten_pieces limit _,
      fun _ => Text.mem_pieces⟩, fun station secret sms logs shows => ?_⟩
  let kept := Text.keepLast 2048 logs.toList
  have chunks := Text.chunks?_eq 512 (String.ofList kept)
  have replies := shows.replies secret
  rw [String.toList_ofList] at chunks
  rw [logTexts_of_ne_empty shows.filled] at replies
  refine ⟨_, _, Text.tail?_eq 2048 logs, chunks, replies, ?_, fun text mem => ?_,
    fun text mem => ?_⟩
  · have joined : (String.join ((Text.pieces 512 kept).map String.ofList)).toList = kept := by
      rw [String.toList_join, List.flatMap_map]
      simp only [String.toList_ofList, List.flatMap_id']
      exact Text.flatten_pieces 512 kept
    rw [joined]
    exact Text.keepLast_longest 2048 _
  · obtain ⟨part, piece, rfl⟩ := List.mem_map.1 mem
    rw [Text.utf8ByteSize_ofList]
    exact Text.width_of_mem_pieces (by decide) piece
  · rw [← List.map_dropLast] at mem
    obtain ⟨part, piece, rfl⟩ := List.mem_map.1 mem
    have full := Text.lt_width_of_mem_pieces piece
    rw [Text.utf8ByteSize_ofList]
    omega

/-- Of a log whose last 2048 bytes begin inside a character, the characters behind it are sent. -/
theorem cutting_keeps_text_of_euros :
    let logs := String.ofList ('a' :: List.replicate 683 '€')
    let station : Station :=
      { Station.fresh .missing with
        host := { answers := fun _ => { Host.healthy.now with logs := .ok logs } } }
    let sms : Sms := { number := "3310203040506", text := "debug log" }
    station.ShowsLog sms logs ∧
      Text.tail? 2048 logs = some (String.ofList (List.replicate 682 '€')) ∧
      ∃ texts, Replies sms.number station texts (station.receive "1234" sms) ∧
        Text.LongestEnd 2048 logs.toList (String.join texts).toList ∧
        (∀ text ∈ texts, text.utf8ByteSize ≤ 512) ∧
        ∀ text ∈ texts.dropLast, 509 ≤ text.utf8ByteSize := by
  intro logs station sms
  have filled : logs ≠ "" := by
    intro none
    have length := congrArg String.length none
    rw [String.length_ofList, List.length_cons, List.length_replicate] at length
    cases length
  have shows : station.ShowsLog sms logs :=
    ⟨by decide +kernel, by decide +kernel, rfl, filled⟩
  have kept : Text.keepLast 2048 ('a' :: List.replicate 683 '€') = List.replicate 682 '€' := by
    decide +kernel
  obtain ⟨-, tail, -, log⟩ := cutting_keeps_text
  obtain ⟨-, texts, -, -, replies, sent⟩ := log station "1234" sms logs shows
  refine ⟨shows, ?_, texts, replies, sent⟩
  rw [(tail 2048 logs).1, String.toList_ofList, kept]

end HeatingHub.Station
