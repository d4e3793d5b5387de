import ExoBrowser.Web.PageImages

/-!
# Messages on the page

What the messages of the host are for the page. The script reads the bytes of each as the
protocol writes them.
-/

set_option autoImplicit false

namespace ExoBrowser.Web

open Library Proto Host

/-! ## Fields -/

theorem getUint_eq {view rest : Bytes} {offset size value : Nat}
    (ahead : view.drop offset = toLeBytes size value ++ rest) (some_byte : 0 < size)
    (small : value < 256 ^ size) : getUint size view offset = .ok value := by
  have long := congrArg List.length ahead
  rw [List.length_drop, List.length_append, length_toLeBytes] at long
  have taken : (toLeBytes size value ++ rest).take size = toLeBytes size value := by
    have length := length_toLeBytes size value
    rw [List.take_append_of_le_length length.ge, List.take_of_length_le length.le]
  rw [getUint, if_pos (by omega), ahead, taken, ofLeBytes_toLeBytes, Nat.mod_eq_of_lt small]

theorem strBytes_eq_utf8 (s : String) : strBytes s = utf8 s.toList := by
  unfold strBytes utf8
  rw [← String.utf8Encode_toList]
  simp [List.utf8Encode]

/-- The text without a byte order mark. -/
def withoutMark (s : String) : String := dropMark s.toList

theorem decodeText_strBytes (s : String) : decodeText (strBytes s) = withoutMark s := by
  unfold decodeText
  rw [strBytes_eq_utf8, decodeLossy_utf8]
  rfl

/-- The length and the bytes of a text. -/
def lengthPrefixed (s : String) : Bytes := leb128 (UInt32.ofNat (strBytes s).length).toNat ++ strBytes s

theorem emits_writeStr (s : String) : Emits (writeStr s) (lengthPrefixed s) :=
  (emits_writeVarint _).seq (emits_extend _)

theorem lengthPrefixed_eq {s : String} (small : (strBytes s).length < 2 ^ 31) :
    lengthPrefixed s = leb128 (strBytes s).length ++ strBytes s := by
  rw [lengthPrefixed, UInt32.toNat_ofNat_of_lt' (Nat.lt_trans small (by decide))]

section Texts

variable {view rest : Bytes} {offset : Nat} {s : String}

theorem strBytes_small (ahead : view.drop offset = lengthPrefixed s ++ rest) (small : view.length < 2 ^ 31) :
    (strBytes s).length < 2 ^ 31 := by
  have long := congrArg List.length ahead
  rw [List.length_drop, List.length_append, lengthPrefixed, List.length_append] at long
  omega

/-- A length and the bytes behind it. -/
theorem readText_eq (ahead : view.drop offset = lengthPrefixed s ++ rest) (small : view.length < 2 ^ 31) :
    ∃ info : VarintInfo, readVarint view offset = .ok (some info) ∧
      decodeText (subarray view ↑(offset + info.bytesRead) (↑(offset + info.bytesRead) + info.value)) =
        withoutMark s ∧
      ∃ behind : Nat, ↑(offset + info.bytesRead) + info.value = (behind : Int) ∧ view.drop behind = rest := by
  have s_small := strBytes_small ahead small
  have long := congrArg List.length ahead
  rw [lengthPrefixed_eq s_small, List.append_assoc] at ahead
  rw [List.length_drop, List.length_append, lengthPrefixed_eq s_small, List.length_append] at long
  have positive := length_leb128_pos (strBytes s).length
  have behind := drop_append ahead
  refine ⟨_, readVarint_eq ahead s_small, ?_, offset + (leb128 (strBytes s).length).length + (strBytes s).length,
    (Int.natCast_add _ _).symm, drop_append behind⟩
  simp only
  rw [← Int.natCast_add, subarray_eq behind (by omega), decodeText_strBytes]

theorem readString_eq (ahead : view.drop offset = lengthPrefixed s ++ rest) (small : view.length < 2 ^ 31) :
    readString view offset = .ok (withoutMark s) := by
  obtain ⟨info, read, text, _⟩ := readText_eq ahead small
  unfold readString
  rw [read]
  exact congrArg Except.ok text

end Texts

/-! ## What messages are -/

/-- The canvas and the image of the shown tab are the image. -/
def Page.paint (page : Page) (image : Image) : Page :=
  ((page.sizeCanvas image.width image.height).putImageData image 0 0).setTabFrame page.activeTabId image

/-- The message, without its bytes. -/
def Page.apply (page : Page) : Message → Page
  | .rawFrame _ width height stride _ _ pixels =>
      page.paint (sentImage width.toNat height.toNat stride.toNat pixels)
  | .subframe _ x y w h stride _ _ pixels =>
      page.putImageData (sentImage w.toNat h.toNat stride.toNat pixels) x.toNat y.toNat
  | .loadState state => page.setLoading state.toNat
  | .urlChanged url => page.setUrl (withoutMark url)
  | .title text => page.setTitle (withoutMark text)
  | .cursorState shape _ _ _ => page.setCursor shape.toU8.toNat
  | .tabCreated tabId text url => (page.countTab tabId.toNat).listTab tabId.toNat (withoutMark text) (withoutMark url)
  | .tabClosed tabId => page.removeTab tabId.toNat
  | .tabActivated tabId => page.activateTab tabId.toNat
  | .tabTitle tabId text => page.setTabTitle tabId.toNat (withoutMark text)
  | .tabUrl tabId url => page.setTabUrl tabId.toNat (withoutMark url)
  | _ => page

/-- Of the messages only sound may throw, after the page has done what there is to do. -/
def throwsAt (play : Player) : Message → Bool
  | .audioFrame _ codec channels sampleRate data =>
      if codec.toNat = 0 ∨ codec.toNat = 1 then !(play channels.toNat sampleRate.toNat data).isOk else false
  | _ => false

/-- An image has pixels, and its rows are whole. -/
def Drawable : Message → Prop
  | .rawFrame _ width height stride _ _ pixels =>
      0 < width.toNat ∧ 0 < height.toNat ∧ width.toNat * 4 ≤ stride.toNat ∧
        stride.toNat * height.toNat ≤ pixels.length
  | .subframe _ _ _ w h stride _ _ pixels =>
      0 < w.toNat ∧ 0 < h.toNat ∧ w.toNat * 4 ≤ stride.toNat ∧ stride.toNat * h.toNat ≤ pixels.length
  | _ => True

section Handlers

variable {page : Page} {play : Player} {target : Target} {m : Message} {payload : Bytes}

theorem payload_eq {fields : Wire Unit} {bytes : Bytes} (payloads : encoded fields = .ok payload)
    (emits : Emits fields bytes) : payload = bytes :=
  Except.ok.inj (payloads.symm.trans (encoded_of_emits emits))

theorem after_ok {α : Type} {value : Run α} {result : α} (returned : value = .ok result) (next : α → Outcome) :
    page.after value next = next result := by
  rw [returned]
  rfl

/-- A payload that starts with a number of 32 bits. -/
theorem getTabId_eq {tabId : UInt32} {rest : Bytes} (split : payload = toLeBytes 4 tabId.toNat ++ rest) :
    getUint 4 payload 0 = .ok tabId.toNat ∧ payload.drop 4 = rest := by
  subst split
  exact ⟨getUint_eq List.drop_zero (by decide) tabId.toNat_lt, List.drop_left' (length_toLeBytes 4 tabId.toNat)⟩

theorem handleTabCreated_eq {tabId : UInt32} {text url : String} (small : payload.length < 2 ^ 31)
    (payloads : encoded ((Message.tabCreated tabId text url).encodePayload target) = .ok payload) :
    page.handleTabCreated payload = (page.apply (.tabCreated tabId text url)).done := by
  have split := payload_eq payloads ((emits_extend _).seq ((emits_writeStr text).seq (emits_writeStr url)))
  obtain ⟨number, behind⟩ := getTabId_eq split
  obtain ⟨textInfo, readText, textRead, urlOff, urlOff_eq, further⟩ := readText_eq behind small
  rw [← List.append_nil (lengthPrefixed url)] at further
  obtain ⟨urlInfo, readUrl, urlRead, _⟩ := readText_eq further small
  have texts : Page.readTabTexts payload = .ok (withoutMark text, withoutMark url) := by
    replace readText : readVarint payload 4 = .ok (some textInfo) := readText
    unfold Page.readTabTexts
    rw [readText, Checked.ok_bind]
    simp only
    rw [textRead, urlOff_eq, readUrl, Checked.ok_bind]
    simp only
    rw [← Int.natCast_add, urlRead]
    rfl
  unfold Page.handleTabCreated
  rw [after_ok number, after_ok texts]
  rfl

theorem getByte_eq {view rest : Bytes} {offset : Nat} {byte : UInt8} (ahead : view.drop offset = byte :: rest) :
    getUint 1 view offset = .ok byte.toNat ∧ view.drop (offset + 1) = rest := by
  have field : toLeBytes 1 byte.toNat = [byte] := by simp [toLeBytes]
  refine ⟨getUint_eq (by rw [ahead, field]; rfl) (by decide) byte.toNat_lt, ?_⟩
  rw [← List.drop_drop, ahead]
  rfl

theorem getField_eq {view rest : Bytes} {offset size value : Nat}
    (ahead : view.drop offset = toLeBytes size value ++ rest) (some_byte : 0 < size) (small : value < 256 ^ size) :
    getUint size view offset = .ok value ∧ view.drop (offset + size) = rest := by
  refine ⟨getUint_eq ahead some_byte small, ?_⟩
  rw [← List.drop_drop, ahead, List.drop_left' (length_toLeBytes size value)]

/-- A time stamp is not read. -/
theorem drop_tsUs {tsUs : UInt64} {rest : Bytes} (split : payload = toLeBytes 8 tsUs.toNat ++ rest) :
    payload.drop 8 = rest := by
  subst split
  exact List.drop_left' (length_toLeBytes 8 tsUs.toNat)

theorem handleRawFrame_eq {tsUs : UInt64} {width height : UInt16} {stride format : UInt32} {pixels : Bytes}
    (drawable : Drawable (.rawFrame tsUs width height stride format 0 pixels))
    (payloads : encoded ((Message.rawFrame tsUs width height stride format 0 pixels).encodePayload target) =
      .ok payload) :
    page.handleRawFrame payload = (page.apply (.rawFrame tsUs width height stride format 0 pixels)).done := by
  obtain ⟨w_pos, h_pos, wide, whole⟩ := drawable
  have split := payload_eq payloads ((emits_extend _).seq <| (emits_extend _).seq <| (emits_extend _).seq <|
    (emits_extend _).seq <| (emits_extend _).seq <| (emits_extend _).seq (emits_extend _))
  obtain ⟨w, behind⟩ := getField_eq (drop_tsUs split) (by decide) width.toNat_lt
  obtain ⟨h, behind⟩ := getField_eq behind (by decide) height.toNat_lt
  obtain ⟨row, behind⟩ := getField_eq behind (by decide) stride.toNat_lt
  obtain ⟨_, behind⟩ := getField_eq behind (by decide) format.toNat_lt
  obtain ⟨_, raw⟩ := getByte_eq behind
  replace raw : payload.drop 21 = pixels := raw
  obtain ⟨out, bytes, filled⟩ := pixelBytes_returns wide whole
  unfold Page.handleRawFrame
  rw [after_ok w, after_ok h, after_ok row]
  simp only [raw]
  rw [after_ok bytes, after_ok (imageData_filled filled w_pos h_pos)]
  rfl

theorem handleSubframe_eq {tsUs : UInt64} {x y w h : UInt16} {stride format : UInt32} {pixels : Bytes}
    (drawable : Drawable (.subframe tsUs x y w h stride format 0 pixels))
    (payloads : encoded ((Message.subframe tsUs x y w h stride format 0 pixels).encodePayload target) =
      .ok payload) :
    page.handleSubframe payload = (page.apply (.subframe tsUs x y w h stride format 0 pixels)).done := by
  obtain ⟨w_pos, h_pos, wide, whole⟩ := drawable
  have split := payload_eq payloads ((emits_extend _).seq <| (emits_extend _).seq <| (emits_extend _).seq <|
    (emits_extend _).seq <| (emits_extend _).seq <| (emits_extend _).seq <| (emits_extend _).seq <|
    (emits_extend _).seq (emits_extend _))
  obtain ⟨left, behind⟩ := getField_eq (drop_tsUs split) (by decide) x.toNat_lt
  obtain ⟨top, behind⟩ := getField_eq behind (by decide) y.toNat_lt
  obtain ⟨width, behind⟩ := getField_eq behind (by decide) w.toNat_lt
  obtain ⟨height, behind⟩ := getField_eq behind (by decide) h.toNat_lt
  obtain ⟨row, behind⟩ := getField_eq behind (by decide) stride.toNat_lt
  obtain ⟨_, behind⟩ := getField_eq behind (by decide) format.toNat_lt
  obtain ⟨_, raw⟩ := getByte_eq behind
  replace raw : payload.drop 25 = pixels := raw
  obtain ⟨out, bytes, filled⟩ := pixelBytes_returns wide whole
  unfold Page.handleSubframe
  rw [after_ok left, after_ok top, after_ok width, after_ok height, after_ok row]
  simp only [raw]
  rw [after_ok bytes, after_ok (imageData_filled filled w_pos h_pos)]
  rfl

theorem handleAudioFrame_eq {ptsUs : UInt64} {codec channels : UInt8} {sampleRate : UInt32} {data : Bytes}
    (small : payload.length < 2 ^ 31)
    (payloads : encoded ((Message.audioFrame ptsUs codec channels sampleRate data).encodePayload target) =
      .ok payload) :
    page.handleAudioFrame play payload =
      ⟨page, throwsAt play (.audioFrame ptsUs codec channels sampleRate data)⟩ := by
  have split := payload_eq payloads ((emits_extend _).seq <| (emits_extend _).seq <| (emits_extend _).seq <|
    (emits_extend _).seq <| (emits_writeVarint _).seq (emits_extend _))
  obtain ⟨codecRead, behind⟩ := getByte_eq (drop_tsUs split)
  obtain ⟨channelsRead, behind⟩ := getByte_eq behind
  obtain ⟨rate, behind⟩ := getField_eq behind (by decide) sampleRate.toNat_lt
  have long := congrArg List.length behind
  rw [List.length_drop, List.length_append] at long
  have data_small : data.length < 2 ^ 31 := by omega
  have data_length : (UInt32.ofNat data.length).toNat = data.length :=
    UInt32.toNat_ofNat_of_lt' (Nat.lt_trans data_small (by decide))
  rw [data_length] at behind long
  have positive := length_leb128_pos data.length
  have samples : payload.drop (14 + (leb128 data.length).length) = data ++ [] :=
    (drop_append behind).trans (List.append_nil data).symm
  have heard : subarray payload ↑(14 + (leb128 data.length).length)
      (↑(14 + (leb128 data.length).length) + ↑data.length) = data := by
    rw [← Int.natCast_add]
    exact subarray_eq samples (by omega)
  have length := readVarint_eq behind data_small
  unfold Page.handleAudioFrame throwsAt
  rw [after_ok codecRead, after_ok channelsRead, after_ok rate]
  refine (after_ok length _).trans ?_
  simp only [heard]
  split
  case isTrue =>
    unfold Page.after
    cases play channels.toNat sampleRate.toNat data with
    | ok => rfl
    | error => rfl
  case isFalse => rfl

/-- Each handler takes the payload of a message for the message. -/
theorem handlePayload_eq (drawable : Drawable m) (small : payload.length < 2 ^ 31)
    (payloads : encoded ((uncompressed m).encodePayload target) = .ok payload) :
    page.handlePayload play m.tag.toNat payload = ⟨page.apply m, throwsAt play m⟩ := by
  cases m with
  | rawFrame => exact handleRawFrame_eq drawable payloads
  | subframe => exact handleSubframe_eq drawable payloads
  | audioFrame => exact handleAudioFrame_eq small payloads
  | tabCreated => exact handleTabCreated_eq small payloads
  | loadState state =>
      obtain ⟨load, _⟩ := @getByte_eq payload [] 0 state (payload_eq payloads (emits_extend _))
      exact after_ok load _
  | cursorState shape hotspotX hotspotY imageRef =>
      have split := payload_eq payloads ((emits_extend _).seq <| (emits_extend _).seq <|
        (emits_extend _).seq (emits_extend _))
      exact after_ok (@getByte_eq payload _ 0 shape.toU8 split).1 _
  | title text =>
      have split := payload_eq payloads (emits_writeStr text)
      rw [← List.append_nil (lengthPrefixed text)] at split
      exact after_ok (@readString_eq payload [] 0 text split small) _
  | urlChanged url =>
      have split := payload_eq payloads (emits_writeStr url)
      rw [← List.append_nil (lengthPrefixed url)] at split
      exact after_ok (@readString_eq payload [] 0 url split small) _
  | tabClosed tabId =>
      have split := payload_eq payloads (emits_extend (toLeBytes 4 tabId.toNat))
      rw [← List.append_nil (toLeBytes 4 tabId.toNat)] at split
      exact after_ok (getTabId_eq split).1 _
  | tabActivated tabId =>
      have split := payload_eq payloads (emits_extend (toLeBytes 4 tabId.toNat))
      rw [← List.append_nil (toLeBytes 4 tabId.toNat)] at split
      exact after_ok (getTabId_eq split).1 _
  | tabTitle tabId text =>
      obtain ⟨number, behind⟩ := getTabId_eq (payload_eq payloads ((emits_extend _).seq (emits_writeStr text)))
      rw [← List.append_nil (lengthPrefixed text)] at behind
      exact (after_ok number _).trans (after_ok (readString_eq behind small) _)
  | tabUrl tabId url =>
      obtain ⟨number, behind⟩ := getTabId_eq (payload_eq payloads ((emits_extend _).seq (emits_writeStr url)))
      rw [← List.append_nil (lengthPrefixed url)] at behind
      exact (after_ok number _).trans (after_ok (readString_eq behind small) _)
  | _ => rfl

end Handlers

/-! ## What arrives -/

/-- The messages that the page is sent: an item of the bus, or a message for it alone, which is no
image. -/
inductive Sent (target : Target) : Bytes → Message → Prop where
  | item {item : BusItem target} {bytes : Bytes} : encodeWsItem item = .ok bytes → Sent target bytes item.msg
  | reply {m : Message} {bytes : Bytes} : uncompressed m = m → encoded (m.encode target) = .ok bytes →
      Sent target bytes m

/-- Less than two gibibytes are sent. -/
def Short (target : Target) (m : Message) : Prop :=
  ∀ payload, encoded ((uncompressed m).encodePayload target) = .ok payload → payload.length < 2 ^ 31

/-- The image of a message is whole. -/
structure Sound (target : Target) (m : Message) : Prop where
  drawable : Drawable m
  small : Short target m

section Arriving

variable {target : Target} {page : Page} {play : Player} {m : Message} {bytes : Bytes}

theorem Sent.eq_frameBytes (sent : Sent target bytes m) (sound : Sound target m) :
    ∃ payload, encoded ((uncompressed m).encodePayload target) = .ok payload ∧ payload.length < 2 ^ 31 ∧
      bytes = frameBytes m.tag payload := by
  cases sent with
  | @item item _ encodes =>
      obtain ⟨payload, payloads⟩ := encoded_uncompressed item
      have small := sound.small payload payloads
      refine ⟨payload, payloads, small, ?_⟩
      exact Except.ok.inj (encodes.symm.trans (encodeWsItem_eq payloads (Nat.lt_trans small (by decide))))
  | reply plain encodes =>
      obtain ⟨payload, payloads⟩ := encoded_payload_of_encode encodes
      have same := payloads
      rw [← plain] at same
      have small := sound.small payload same
      refine ⟨payload, same, small, ?_⟩
      exact Except.ok.inj (encodes.symm.trans (encode_frame_eq payloads (Nat.lt_trans small (by decide))))

theorem pagePass_frame {offset : Nat} {rest : Bytes} {whole : Bytes} (sent : Sent target bytes m)
    (sound : Sound target m) (ahead : whole.drop offset = bytes ++ rest) :
    pagePass play whole (offset, page) =
      .ok (if throwsAt play m then .leave (page.apply m)
        else .again (↑(offset + bytes.length), page.apply m)) := by
  obtain ⟨payload, payloads, small, rfl⟩ := sent.eq_frameBytes sound
  have tag_unsigned := tag_lt m
  have long := congrArg List.length ahead
  have positive := length_leb128_pos m.tag.toNat
  rw [List.length_drop, List.length_append] at long
  have parts : whole.drop offset =
      leb128 m.tag.toNat ++ (leb128 payload.length ++ (payload ++ rest)) := by
    rw [ahead, frameBytes, List.append_assoc, List.append_assoc]
  have behind := drop_append (drop_append parts)
  have length : (frameBytes m.tag payload).length =
      (leb128 m.tag.toNat).length + (leb128 payload.length).length + payload.length := by
    rw [frameBytes, List.length_append, List.length_append, Nat.add_assoc]
  rw [pagePass, if_pos (by omega), readHeader_eq parts tag_unsigned small]
  simp only
  rw [if_neg (by omega), ← Int.natCast_add, subarray_eq behind (by omega),
    handlePayload_eq sound.drawable small payloads, length]
  simp only [Nat.add_assoc]
  cases throwsAt play m <;> rfl

/-- What throws is the last message to be handled. -/
theorem loop_pagePass {whole : Bytes} (received : List (Bytes × Message))
    (sent : ∀ frame ∈ received, Sent target frame.1 frame.2 ∧ Sound target frame.2)
    (calm : ∀ frame ∈ received.dropLast, throwsAt play frame.2 = false) {offset fuel : Nat}
    (ahead : whole.drop offset = (received.map Prod.fst).flatten) (enough : received.length < fuel) :
    loop (pagePass play whole) fuel (offset, page) = .ok ((received.map Prod.snd).foldl Page.apply page) := by
  induction received generalizing offset fuel page with
  | nil =>
      obtain ⟨fuel, rfl⟩ := Nat.exists_eq_succ_of_ne_zero (Nat.ne_of_gt enough)
      have finished : whole.length ≤ offset := List.drop_eq_nil_iff.mp ahead
      have pass : pagePass play whole (offset, page) = .ok (.leave page) := by
        rw [pagePass, if_neg (by omega)]
        rfl
      exact loop_leave pass
  | cons frame received ih =>
      obtain ⟨fuel, rfl⟩ := Nat.exists_eq_succ_of_ne_zero (Nat.ne_of_gt (Nat.zero_lt_of_lt enough))
      obtain ⟨first, sound⟩ := sent frame List.mem_cons_self
      rw [List.map_cons, List.flatten_cons] at ahead
      have pass := @pagePass_frame target page play _ _ _ _ _ first sound ahead
      cases thrown : throwsAt play frame.2 with
      | false =>
          rw [thrown] at pass
          have others := @ih (page.apply frame.2) (fun other member => sent other (List.mem_cons_of_mem _ member))
            (fun other member => calm other ?_) _ fuel (drop_append ahead) (Nat.lt_of_succ_lt_succ enough)
          · rw [loop_again pass, others]
            rfl
          · have nonempty : received ≠ [] := List.ne_nil_of_mem (List.mem_of_mem_dropLast member)
            rw [List.dropLast_cons_of_ne_nil nonempty]
            exact List.mem_cons_of_mem _ member
      | true =>
          rw [thrown] at pass
          cases received with
          | nil => exact loop_leave pass
          | cons => exact nomatch thrown.symm.trans (calm frame List.mem_cons_self)

theorem Sent.length_pos (sent : Sent target bytes m) (sound : Sound target m) : 1 ≤ bytes.length := by
  obtain ⟨payload, _, _, rfl⟩ := sent.eq_frameBytes sound
  have positive := length_leb128_pos m.tag.toNat
  rw [frameBytes, List.length_append]
  omega

theorem receive_frames (received : List (Bytes × Message))
    (sent : ∀ frame ∈ received, Sent target frame.1 frame.2 ∧ Sound target frame.2)
    (calm : ∀ frame ∈ received.dropLast, throwsAt play frame.2 = false) :
    page.receive play (received.map Prod.fst).flatten = .ok ((received.map Prod.snd).foldl Page.apply page) := by
  refine loop_pagePass received sent calm List.drop_zero ?_
  have each : ∀ part ∈ received.map Prod.fst, 1 ≤ part.length := by
    intro part member
    obtain ⟨frame, inside, rfl⟩ := List.mem_map.mp member
    exact (sent frame inside).1.length_pos (sent frame inside).2
  have long := List.length_le_sum_of_one_le ((received.map Prod.fst).map List.length) (List.forall_mem_map.mpr each)
  rw [← List.length_flatten, List.length_map, List.length_map] at long
  omega

theorem receive_frame (sent : Sent target bytes m) (sound : Sound target m) :
    page.receive play bytes = .ok (page.apply m) := by
  have received := @receive_frames target page play [(bytes, m)] (List.forall_mem_singleton.mpr ⟨sent, sound⟩)
    (List.forall_mem_nil _)
  rwa [List.map_singleton, List.flatten_singleton] at received

end Arriving

end ExoBrowser.Web
