import ExoBrowser.Client.Rendered
import ExoBrowser.Client.X11

/-!
# Presented damage

The requests for the damage of a render copy exactly its rectangles: where they draw in the
window, it shows the framebuffer. Presenting never fails.
-/

set_option autoImplicit false

namespace ExoBrowser.Client

open Library Proto Checked

variable {build : Build} {window : Window} {framebuffer : List UInt32} {d : DamageRect}

/-! ## Chunks -/

/-- The bytes of a row of a rectangle. -/
def rowBytes (bw : Nat) (framebuffer : List UInt32) (d : DamageRect) (py : Nat) : Bytes :=
  (((framebuffer.drop (py * bw + d.x.toNat)).take d.w.toNat).map fun px => toLeBytes 4 px.toNat).flatten

/-- The request for some rows of a rectangle. -/
def chunkRequest (bw : Nat) (framebuffer : List UInt32) (d : DamageRect) (top rows : Nat) : PutImage where
  width := d.w.toUInt16
  height := UInt16.ofNat rows
  dstX := Int16.ofNat d.x.toNat
  dstY := Int16.ofNat top
  data := ((List.range rows).map fun r => rowBytes bw framebuffer d (top + r)).flatten

/-- Coordinates in a window of at most 2^15 by 2^15 pixels are those of X11, and the framebuffer
holds all of it. -/
structure Window.Presentable (window : Window) (framebuffer : List UInt32) : Prop where
  wide : window.bw.toNat ≤ 2 ^ 15
  tall : window.bh.toNat ≤ 2 ^ 15
  length : framebuffer.length = window.needed

theorem DamageRect.Near.row_fits (near : d.Near window) (some : d.w.toNat ≠ 0) {py : Nat}
    (above : py < d.y.toNat + d.h.toNat) :
    py * window.bw.toNat + d.x.toNat + d.w.toNat ≤ window.needed := by
  have left := near.left some
  have wide := near.wide
  have bottom := near.bottom
  have commuted : window.needed = window.bh.toNat * window.bw.toNat := Nat.mul_comm _ _
  rw [commuted]
  cases near.corner with
  | inl right =>
      have rows : (py + 1) * window.bw.toNat ≤ window.bh.toNat * window.bw.toNat :=
        Nat.mul_le_mul_right _ (by omega)
      rw [Nat.succ_mul] at rows
      omega
  | inr higher =>
      have rows : (py + 2) * window.bw.toNat ≤ window.bh.toNat * window.bw.toNat :=
        Nat.mul_le_mul_right _ (by omega)
      have twice : (py + 2) * window.bw.toNat =
          py * window.bw.toNat + window.bw.toNat + window.bw.toNat := by ring
      omega

theorem length_rowBytes {py : Nat}
    (fits : py * window.bw.toNat + d.x.toNat + d.w.toNat ≤ framebuffer.length) :
    (rowBytes window.bw.toNat framebuffer d py).length = d.w.toNat * 4 := by
  have words : ((framebuffer.drop (py * window.bw.toNat + d.x.toNat)).take d.w.toNat).length =
      d.w.toNat := by
    rw [List.length_take, List.length_drop]
    omega
  rw [rowBytes, ← List.flatMap_def, List.length_flatMap]
  simp only [length_toLeBytes, List.map_const', words, List.sum_replicate_nat]

theorem presentRow_eq_ok {ry r : UInt32} (small : d.y.toNat + ry.toNat + r.toNat < 2 ^ 32)
    (fits : (d.y.toNat + ry.toNat + r.toNat) * window.bw.toNat + d.x.toNat + d.w.toNat ≤
      framebuffer.length) :
    presentRow build window.bw framebuffer d ry r =
      .ok (rowBytes window.bw.toNat framebuffer d (d.y.toNat + ry.toNat + r.toNat)) := by
  have first : (d.y + ry).toNat = d.y.toNat + ry.toNat := toNat_add32 (by omega)
  have second : (d.y + ry + r).toNat = d.y.toNat + ry.toNat + r.toNat := by
    rw [toNat_add32 (by omega), first]
  unfold presentRow
  rw [Build.add32_eq_ok (by omega), ok_bind, Build.add32_eq_ok (by omega), ok_bind, second]
  simp only [slice_add_eq_ok fits, ok_bind, List.flatMap_def]
  rfl

theorem presentChunk_eq_ok {ry chunkH : UInt32} (near : d.Near window)
    (presentable : window.Presentable framebuffer) (some : d.w.toNat ≠ 0)
    (below : ry.toNat + chunkH.toNat ≤ d.h.toNat) :
    presentChunk build window.bw framebuffer d ry chunkH =
      .ok (chunkRequest window.bw.toNat framebuffer d (d.y.toNat + ry.toNat) chunkH.toNat) := by
  obtain ⟨_, tall, length⟩ := presentable
  have bottom := near.bottom
  have rows : (List.range chunkH.toNat).mapM (fun r =>
      presentRow build window.bw framebuffer d ry (UInt32.ofNat r)) =
      .ok ((List.range chunkH.toNat).map fun r =>
        rowBytes window.bw.toNat framebuffer d (d.y.toNat + ry.toNat + r)) := by
    refine mapM_eq_ok fun r member => ?_
    have r_lt := List.mem_range.mp member
    have value : (UInt32.ofNat r).toNat = r := UInt32.toNat_ofNat_of_lt' (by
      change r < 2 ^ 32
      omega)
    have fits := @DamageRect.Near.row_fits window d near some (d.y.toNat + ry.toNat + r) (by omega)
    have row := @presentRow_eq_ok build window framebuffer d ry (UInt32.ofNat r) (by omega)
      (by rw [value, length]; exact fits)
    rw [value] at row
    exact row
  unfold presentChunk
  rw [rows, ok_bind, Build.add32_eq_ok (by omega), ok_bind, toNat_add32 (by omega)]
  rfl

section Chunk

variable {top rows : Nat} (near : d.Near window) (presentable : window.Presentable framebuffer)
  (some : d.w.toNat ≠ 0) (more : 0 < rows) (below : top + rows ≤ d.y.toNat + d.h.toNat)

include near presentable some more below

theorem chunkRequest_covers_iff {col row : Nat} :
    (chunkRequest window.bw.toNat framebuffer d top rows).Covers col row ↔
      (d.x.toNat ≤ col ∧ col < d.x.toNat + d.w.toNat) ∧ top ≤ row ∧ row < top + rows := by
  obtain ⟨wide, tall, _⟩ := presentable
  have left := near.left some
  have columns := near.wide
  have bottom := near.bottom
  have x : (Int16.ofNat d.x.toNat).toInt = d.x.toNat := Int16.toInt_ofNat_of_lt (by omega)
  have y : (Int16.ofNat top).toInt = top := Int16.toInt_ofNat_of_lt (by omega)
  have w : d.w.toUInt16.toNat = d.w.toNat := by
    rw [UInt32.toNat_toUInt16]
    exact Nat.mod_eq_of_lt (by omega)
  have h : (UInt16.ofNat rows).toNat = rows := UInt16.toNat_ofNat_of_lt' (by
    change rows < 2 ^ 16
    omega)
  simp only [PutImage.Covers, chunkRequest, x, y, w, h]
  omega

/-- The pixels of a request are those of the framebuffer. -/
theorem chunkRequest_pixel {col row : Nat}
    (covers : (chunkRequest window.bw.toNat framebuffer d top rows).Covers col row) :
    framebuffer[cell window.bw.toNat col row]? =
      Option.some ((chunkRequest window.bw.toNat framebuffer d top rows).pixel col row) := by
  obtain ⟨⟨left, right⟩, upper, lower⟩ :=
    (chunkRequest_covers_iff near presentable some more below).mp covers
  obtain ⟨wide, tall, length⟩ := presentable
  have inside := near.left some
  have columns := near.wide
  have bottom := near.bottom
  have x : (Int16.ofNat d.x.toNat).toInt = d.x.toNat := Int16.toInt_ofNat_of_lt (by omega)
  have y : (Int16.ofNat top).toInt = top := Int16.toInt_ofNat_of_lt (by omega)
  have w : d.w.toUInt16.toNat = d.w.toNat := by
    rw [UInt32.toNat_toUInt16]
    exact Nat.mod_eq_of_lt (by omega)
  have position : (((row : Int) - top) * d.w.toNat + (col - d.x.toNat)).toNat =
      (row - top) * d.w.toNat + (col - d.x.toNat) := by
    have line : ((row : Int) - top) = (row - top : Nat) := by omega
    have place : ((col : Int) - d.x.toNat) = (col - d.x.toNat : Nat) := by omega
    rw [line, place]
    exact Int.toNat_natCast _
  have fits {py : Nat} (higher : py < top + rows) :
      py * window.bw.toNat + d.x.toNat + d.w.toNat ≤ framebuffer.length := by
    rw [length]
    exact near.row_fits some (by omega)
  have lines : ∀ line ∈ (List.range rows).map fun r => rowBytes window.bw.toNat framebuffer d (top + r),
      line.length = d.w.toNat * 4 := by
    intro line member
    obtain ⟨r, inRange, rfl⟩ := List.mem_map.mp member
    have r_lt := List.mem_range.mp inRange
    exact length_rowBytes (fits (by omega))
  have here : ((List.range rows).map fun r => rowBytes window.bw.toNat framebuffer d (top + r))[row - top]? =
      Option.some (rowBytes window.bw.toNat framebuffer d row) := by
    rw [List.getElem?_map, List.getElem?_range (by omega)]
    simp [Nat.add_sub_cancel' upper]
  have word : ((framebuffer.drop (row * window.bw.toNat + d.x.toNat)).take d.w.toNat)[col - d.x.toNat]? =
      framebuffer[cell window.bw.toNat col row]? := by
    rw [List.getElem?_take_of_lt (by omega), List.getElem?_drop, cell]
    congr 1
    omega
  have stored : cell window.bw.toNat col row < framebuffer.length := by
    have row_fits := fits lower
    unfold cell
    omega
  rw [List.getElem?_eq_getElem stored] at word ⊢
  have bytes : ∀ four ∈ (((framebuffer.drop (row * window.bw.toNat + d.x.toNat)).take d.w.toNat).map
      fun px => toLeBytes 4 px.toNat), four.length = 4 := by
    intro four member
    obtain ⟨px, _, rfl⟩ := List.mem_map.mp member
    exact length_toLeBytes 4 px.toNat
  have four := take_drop_flatten (r := col - d.x.toNat) (k := 0) (m := 4) bytes
    (by rw [List.getElem?_map, word]; rfl) (Nat.le_refl 4)
  have part := take_drop_flatten (k := 4 * (col - d.x.toNat)) (m := 4) lines here (by omega)
  have offset : 4 * ((row - top) * d.w.toNat + (col - d.x.toNat)) =
      d.w.toNat * 4 * (row - top) + 4 * (col - d.x.toNat) := by ring
  have value : (framebuffer[cell window.bw.toNat col row]).toNat < 2 ^ 32 := UInt32.toNat_lt _
  simp only [PutImage.pixel, chunkRequest, x, y, w, position, offset]
  rw [part, rowBytes]
  rw [Nat.add_zero] at four
  rw [four, List.drop_zero, List.take_of_length_le (by simp), ofLeBytes_toLeBytes,
    Nat.mod_eq_of_lt (by simpa using value)]
  simp

end Chunk

/-! ## Rectangles -/

/-- Where the request draws, it draws the framebuffer. -/
def PutImage.Copies (bw : Nat) (framebuffer : List UInt32) (request : PutImage) : Prop :=
  ∀ col row : Nat, request.Covers col row → framebuffer[cell bw col row]? = some (request.pixel col row)

/-- The chunks of the first `ry` rows of a rectangle. -/
structure Chunked (window : Window) (framebuffer : List UInt32) (d : DamageRect)
    (chunks : List PutImage × UInt32) : Prop where
  below : chunks.2.toNat ≤ d.h.toNat
  copies : ∀ request ∈ chunks.1, request.Copies window.bw.toNat framebuffer
  covers_iff : ∀ col row : Nat, (∃ request ∈ chunks.1, request.Covers col row) ↔
    (d.x.toNat ≤ col ∧ col < d.x.toNat + d.w.toNat) ∧ d.y.toNat ≤ row ∧ row < d.y.toNat + chunks.2.toNat

theorem maxRowsPerChunk_bounds (rowBytes : Nat) :
    0 < maxRowsPerChunk rowBytes ∧ maxRowsPerChunk rowBytes < 2 ^ 32 := by
  have chunk : 48 * 1024 / max rowBytes 4 ≤ 48 * 1024 := Nat.div_le_self _ _
  unfold maxRowsPerChunk
  omega

/-- Each turn adds a chunk below the others. -/
theorem presentPass_returns (near : d.Near window) (presentable : window.Presentable framebuffer)
    (some : d.w.toNat ≠ 0) {chunks : List PutImage × UInt32}
    (chunked : Chunked window framebuffer d chunks) :
    Returns (presentPass build window.bw framebuffer d chunks) (Pass.Meets
      (fun next => Chunked window framebuffer d next ∧ d.h.toNat - next.2.toNat < d.h.toNat - chunks.2.toNat)
      fun requests => Chunked window framebuffer d (requests, d.h)) := by
  obtain ⟨requests, ry⟩ := chunks
  obtain ⟨below, copies, covers⟩ := chunked
  simp only at below copies covers
  obtain ⟨positive, bounded⟩ := maxRowsPerChunk_bounds (d.w.toNat * 4)
  unfold presentPass
  simp only
  split
  case isFalse finished =>
      have last : ry = d.h := UInt32.toNat_inj.mp (by
        have reached := mt UInt32.lt_iff_toNat_lt.mpr finished
        omega)
      subst last
      exact (returns_pure _ _).mpr ⟨below, copies, covers⟩
  case isTrue left =>
      have left := UInt32.lt_iff_toNat_lt.mp left
      have rest : (d.h - ry).toNat = d.h.toNat - ry.toNat := toNat_sub32 (by omega)
      have most : (UInt32.ofNat (maxRowsPerChunk (d.w.toNat * 4))).toNat =
          maxRowsPerChunk (d.w.toNat * 4) := UInt32.toNat_ofNat_of_lt' bounded
      have chunk := toNat_min32 (d.h - ry) (UInt32.ofNat (maxRowsPerChunk (d.w.toNat * 4)))
      rw [rest, most] at chunk
      generalize min (d.h - ry) (UInt32.ofNat (maxRowsPerChunk (d.w.toNat * 4))) = chunkH at chunk ⊢
      have bottom := near.bottom
      have tall := presentable.tall
      have more : 0 < chunkH.toNat := by omega
      have inside : ry.toNat + chunkH.toNat ≤ d.h.toNat := by omega
      have part : d.y.toNat + ry.toNat + chunkH.toNat ≤ d.y.toNat + d.h.toNat := by omega
      have sum : (ry + chunkH).toNat = ry.toNat + chunkH.toNat := toNat_add32 (by omega)
      refine .step (presentChunk_eq_ok near presentable some inside) ?_
      refine .step (Build.add32_eq_ok (by omega)) ?_
      refine (returns_pure _ _).mpr ⟨⟨?_, ?_, ?_⟩, ?_⟩
      · simp only [sum]
        exact inside
      · refine List.forall_mem_append.mpr ⟨copies, List.forall_mem_singleton.mpr fun col row => ?_⟩
        exact chunkRequest_pixel near presentable some more part
      · intro col row
        have here := @chunkRequest_covers_iff window framebuffer d _ _ near presentable some more part col row
        have earlier := covers col row
        simp only [List.mem_append, List.mem_singleton, or_and_right, exists_or, exists_eq_left, here,
          earlier, sum]
        omega
      · simp only [sum]
        omega

theorem presentRect_returns (near : d.Near window) (presentable : window.Presentable framebuffer) :
    Returns (presentRect build window.bw framebuffer d) fun requests =>
      (∀ request ∈ requests, request.Copies window.bw.toNat framebuffer) ∧
        ∀ col row : Nat, (∃ request ∈ requests, request.Covers col row) ↔ d.Covers col row := by
  unfold presentRect
  split
  case isTrue empty =>
      refine (returns_pure _ _).mpr ⟨nofun, fun col row => iff_of_false nofun ?_⟩
      rintro ⟨left, right, above, below⟩
      cases empty with
      | inl narrow =>
          rw [narrow] at right
          exact absurd right (Nat.not_lt.mpr left)
      | inr flat =>
          rw [flat] at below
          exact absurd below (Nat.not_lt.mpr above)
  case isFalse filled =>
      have some : d.w.toNat ≠ 0 := fun none => filled (.inl (UInt32.toNat_inj.mp none))
      have start : Chunked window framebuffer d ([], 0) :=
        ⟨Nat.zero_le _, nofun, fun col row => iff_of_false nofun (by
          have zero : (0 : UInt32).toNat = 0 := rfl
          simp only [zero]
          omega)⟩
      refine (loop_returns (Chunked window framebuffer d) (fun chunks => d.h.toNat - chunks.2.toNat)
        (fun chunks chunked => presentPass_returns near presentable some chunked) start
        (by simp only; omega)).mono fun requests chunked => ⟨chunked.copies, fun col row => ?_⟩
      rw [chunked.covers_iff]
      exact and_assoc

/-- The requests copy the rectangles, and no others. -/
theorem presentX11Damage_returns {damage : List DamageRect} (near : ∀ rect ∈ damage, rect.Near window)
    (presentable : window.Presentable framebuffer) :
    Returns (presentX11Damage build window.bw framebuffer damage) fun requests =>
      (∀ request ∈ requests, request.Copies window.bw.toNat framebuffer) ∧
        ∀ col row : Nat, (∃ request ∈ requests, request.Covers col row) ↔
          ∃ rect ∈ damage, rect.Covers col row := by
  unfold presentX11Damage
  refine (Returns.mapM fun d member => presentRect_returns (near d member) presentable).bind
    fun requests ⟨forward, backward⟩ => (returns_pure _ _).mpr ⟨?_, fun col row => ⟨?_, ?_⟩⟩
  · intro request member
    obtain ⟨part, inParts, here⟩ := List.mem_flatten.mp member
    obtain ⟨d, _, copies, _⟩ := backward part inParts
    exact copies request here
  · rintro ⟨request, member, covers⟩
    obtain ⟨part, inParts, here⟩ := List.mem_flatten.mp member
    obtain ⟨d, inDamage, _, covers_iff⟩ := backward part inParts
    exact ⟨d, inDamage, (covers_iff col row).mp ⟨request, here, covers⟩⟩
  · rintro ⟨d, inDamage, covers⟩
    obtain ⟨part, inParts, _, covers_iff⟩ := forward d inDamage
    obtain ⟨request, here, covered⟩ := (covers_iff col row).mpr covers
    exact ⟨request, List.mem_flatten.mpr ⟨part, inParts, here⟩, covered⟩

/-! ## The window -/

/-- The window of the server shows the framebuffer. -/
def Drawable.Mirrors (drawable : Drawable) (window : Window) (framebuffer : List UInt32) : Prop :=
  ∀ col < window.bw.toNat, ∀ row < window.bh.toNat,
    framebuffer[cell window.bw.toNat col row]? = some (drawable col row)

/-- What requests draw: the framebuffer where one of them covers, and nothing elsewhere. -/
theorem foldl_onto {requests : List PutImage}
    (copies : ∀ request ∈ requests, request.Copies window.bw.toNat framebuffer) (drawable : Drawable)
    (col row : Nat) :
    if ∃ request ∈ requests, request.Covers col row then
      framebuffer[cell window.bw.toNat col row]? =
        some (requests.foldl (fun drawn request => request.onto drawn) drawable col row)
    else requests.foldl (fun drawn request => request.onto drawn) drawable col row = drawable col row := by
  induction requests generalizing drawable with
  | nil => simp
  | cons request rest ih =>
      obtain ⟨copy, others⟩ := List.forall_mem_cons.mp copies
      have later := ih others (request.onto drawable)
      rw [List.foldl_cons]
      by_cases after : ∃ request ∈ rest, request.Covers col row
      · rw [if_pos after] at later
        rw [if_pos]
        · exact later
        · obtain ⟨other, member, covers⟩ := after
          exact ⟨other, List.mem_cons_of_mem _ member, covers⟩
      · rw [if_neg after] at later
        by_cases now : request.Covers col row
        · rw [if_pos ⟨request, List.mem_cons_self, now⟩, later, PutImage.onto, if_pos now]
          exact copy col row now
        · rw [if_neg, later, PutImage.onto, if_neg now]
          rintro ⟨other, member, covers⟩
          cases List.mem_cons.mp member with
          | inl same => exact now (same ▸ covers)
          | inr inRest => exact after ⟨other, inRest, covers⟩

end ExoBrowser.Client
