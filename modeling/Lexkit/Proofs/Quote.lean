import Lexkit.Proofs.Scan
import Lexkit.Proofs.Slice.Escape
import Lexkit.Quote

/-!
# Quoted identifiers

A closed identifier is its start character, a content in which every end character is doubled, and
an end character that no further one follows. `close_passes` reads this off the walk. The byte
search leaps from one end character to the next and takes the same decisions there, and the table of
end characters gives for each start character what the first pair with that start gives.
-/

namespace Lexkit.QuotedIdentifier

/-! ### Where the walk stops -/

/-- The walk from a cursor passed an escaped text and the end character after it, which no further
one follows, or everything that is left. -/
def Closes (stop : Char) (cursor : Cursor) : Except Cursor Cursor → Prop
  | .ok after =>
    (∃ inner, cursor.Passes (Text.escape stop inner ++ [stop]) after) ∧
      after.rest.head? ≠ some stop
  | .error atEnd => cursor.Passes cursor.rest atEnd

theorem Closes.after_passes {stop ch : Char} {cursor middle : Cursor} {segment : Text}
    {closed : Except Cursor Cursor} (hpasses : cursor.Passes segment middle)
    (hescape : ∀ inner, Text.escape stop (ch :: inner) = segment ++ Text.escape stop inner)
    (hcloses : Closes stop middle closed) : Closes stop cursor closed := by
  cases closed with
  | ok after =>
    obtain ⟨⟨inner, hinner⟩, hlast⟩ := hcloses
    refine ⟨⟨ch :: inner, ?_⟩, hlast⟩
    rw [hescape, List.append_assoc]
    exact hpasses.trans hinner
  | error atEnd =>
    rw [Closes, hpasses.rest_eq]
    exact hpasses.trans hcloses

section

variable {stop ch : Char} {cursor : Cursor} {rest : Text}

theorem close_of_nil (hrest : cursor.rest = []) : close stop cursor = .error cursor := by
  rw [close]
  split
  · rfl
  · simp_all

theorem close_of_pair (hrest : cursor.rest = stop :: rest)
    (hnext : cursor.peekNth 1 = some stop) :
    close stop cursor = close stop (cursor.skip 2) := by
  rw [close]
  split
  · simp_all
  · rename_i first others hcons
    obtain ⟨rfl, rfl⟩ : stop = first ∧ rest = others := by simpa [hrest] using hcons
    rw [if_pos rfl, if_pos hnext]

theorem close_of_stop (hrest : cursor.rest = stop :: rest)
    (hnext : cursor.peekNth 1 ≠ some stop) : close stop cursor = .ok cursor.advance := by
  rw [close]
  split
  · simp_all
  · rename_i first others hcons
    obtain ⟨rfl, rfl⟩ : stop = first ∧ rest = others := by simpa [hrest] using hcons
    rw [if_pos rfl, if_neg hnext]

theorem close_of_ne (hrest : cursor.rest = ch :: rest) (hch : ch ≠ stop) :
    close stop cursor = close stop cursor.advance := by
  rw [close]
  split
  · simp_all
  · rename_i first others hcons
    obtain ⟨rfl, rfl⟩ : ch = first ∧ rest = others := by simpa [hrest] using hcons
    rw [if_neg hch]

end

theorem close_passes (stop : Char) (cursor : Cursor) :
    Closes stop cursor (close stop cursor) := by
  fun_induction close stop cursor with
  | case1 cursor hrest =>
    rw [Closes, hrest]
    exact Cursor.Passes.refl cursor
  | case2 cursor others hnext hrest ih =>
    obtain ⟨further, rfl⟩ : ∃ further, others = stop :: further := by
      rw [Cursor.peekNth, hrest, List.getElem?_cons_succ, ← List.head?_eq_getElem?] at hnext
      exact List.head?_eq_some_iff.1 hnext
    have hpair : cursor.Passes [stop, stop] (cursor.skip 2) := by
      simpa [hrest] using cursor.passes_skip 2
    exact ih.after_passes hpair (Text.escape_cons_self stop)
  | case3 cursor others hnext hrest =>
    refine ⟨⟨[], Cursor.passes_advance hrest⟩, ?_⟩
    rwa [Cursor.rest_advance_of_cons hrest, List.head?_eq_getElem?, ← List.getElem?_cons_succ,
      ← hrest]
  | case4 cursor ch others hrest hch ih =>
    exact ih.after_passes (Cursor.passes_advance hrest) (Text.escape_cons_of_ne stop hch)

/-! ### What reading comes to -/

variable (quoted : QuotedIdentifier)

/-- The start character at the cursor and the end character that belongs to it. -/
def opening (cursor : Cursor) : Option (Char × Char) :=
  cursor.peek.bind fun first => (quoted.endFor first).map fun stop => (first, stop)

variable {quoted} {cursor after : Cursor} {first stop : Char} {inner : Text}

theorem rest_of_opening (hopening : quoted.opening cursor = some (first, stop)) :
    (∃ rest, cursor.rest = first :: rest) ∧ quoted.endFor first = some stop := by
  simp only [opening, Option.bind_eq_some_iff, Option.map_eq_some_iff, Prod.mk.injEq] at hopening
  obtain ⟨ch, hpeek, stop', hend, rfl, rfl⟩ := hopening
  exact ⟨List.head?_eq_some_iff.1 hpeek, hend⟩

theorem opening_eq_none (hnone : ∀ spec ∈ quoted.specs, cursor.peek ≠ some spec.start) :
    quoted.opening cursor = none := by
  rw [opening, Option.bind_eq_none_iff]
  intro ch hpeek
  have hend : quoted.specs.find? (·.start == ch) = none := by
    rw [List.find?_eq_none]
    intro spec hspec hstart
    rw [beq_iff_eq] at hstart
    exact hnone spec hspec (hstart ▸ hpeek)
  rw [endFor, hend]
  rfl

theorem read_of_unopened (hopening : quoted.opening cursor = none) :
    quoted.read cursor = .done none cursor := by
  rw [read, Scan.bind_apply, Scan.here_apply, Step.bind_done]
  cases hpeek : cursor.peek with
  | none => rfl
  | some ch =>
    have hend : quoted.endFor ch = none := by simpa [opening, hpeek] using hopening
    dsimp only
    rw [hend]
    rfl

theorem read_of_unclosed (hopening : quoted.opening cursor = some (first, stop))
    (hclose : close stop cursor.advance = .error after) :
    quoted.read cursor =
      (Step.malformed (.unclosedQuote stop after.position) after).after
        [.unclosedQuote cursor.offset stop] := by
  obtain ⟨⟨rest, hrest⟩, hend⟩ := rest_of_opening hopening
  rw [read, Scan.bind_apply, Scan.here_apply, Step.bind_done, Cursor.peek, hrest, List.head?_cons]
  dsimp only
  rw [hend]
  dsimp only
  rw [hclose]
  rfl

def rawText (first stop : Char) (inner : Text) : Text := first :: (Text.escape stop inner ++ [stop])

theorem size_rawText (first stop : Char) (inner : Text) : Text.size (rawText first stop inner) =
    first.utf8Size + (Text.size (Text.escape stop inner) + stop.utf8Size) := by
  simp [rawText]

theorem size_rawText_eq_iff :
    Text.size (rawText first stop inner) = first.utf8Size + stop.utf8Size ↔
    inner = [] := by
  have hinner : Text.size (Text.escape stop inner) = 0 ↔ inner = [] :=
    Text.size_eq_zero.trans (Text.escape_eq_nil stop)
  rw [size_rawText, ← hinner]
  omega

theorem distance_of_passes {taken : Text} (hpasses : cursor.Passes taken after) :
    Fault.distance after.offset cursor.offset = .ok (Text.size taken) := by
  have hoffset := hpasses.offset_eq
  rw [Fault.distance, if_pos hpasses.offset_le]
  exact congrArg _ (by omega)

theorem read_of_closed (hopening : quoted.opening cursor = some (first, stop))
    (hclose : close stop cursor.advance = .ok after)
    (hpasses : cursor.Passes (rawText first stop inner) after) :
    quoted.read cursor =
      if inner = [] then .malformed (.zeroLengthIdentifier after.position) after
      else .done (some ⟨cursor.buffer, cursor.offset, rawText first stop inner⟩) after := by
  obtain ⟨⟨rest, hrest⟩, hend⟩ := rest_of_opening hopening
  rw [read, Scan.bind_apply, Scan.here_apply, Step.bind_done, Cursor.peek, hrest, List.head?_cons]
  dsimp only
  rw [hend]
  dsimp only
  rw [hclose]
  simp only [Scan.bind_apply, Scan.goTo_apply, Step.bind_done, distance_of_passes hpasses,
    Scan.attempt_ok, size_rawText_eq_iff]
  split
  · rfl
  · rw [Scan.bind_apply, Scan.sliceFrom_of_passes hpasses]
    rfl

theorem opening_cases (quoted : QuotedIdentifier) (cursor : Cursor) :
    quoted.opening cursor = none ∨
      ∃ first stop, quoted.opening cursor = some (first, stop) ∧
        ((∃ atEnd, close stop cursor.advance = .error atEnd ∧ cursor.Passes cursor.rest atEnd) ∨
          ∃ after inner, close stop cursor.advance = .ok after ∧
            cursor.Passes (rawText first stop inner) after ∧ after.rest.head? ≠ some stop) := by
  cases hopening : quoted.opening cursor with
  | none => exact .inl rfl
  | some quotes =>
    obtain ⟨first, stop⟩ := quotes
    obtain ⟨⟨rest, hrest⟩, -⟩ := rest_of_opening hopening
    have hstep := Cursor.passes_advance hrest
    have hpasses := close_passes stop cursor.advance
    refine .inr ⟨first, stop, rfl, ?_⟩
    cases hclose : close stop cursor.advance with
    | error atEnd =>
      rw [hclose] at hpasses
      refine .inl ⟨atEnd, rfl, ?_⟩
      rw [hstep.rest_eq]
      exact hstep.trans hpasses
    | ok after =>
      rw [hclose] at hpasses
      obtain ⟨⟨inner, hinner⟩, hlast⟩ := hpasses
      exact .inr ⟨after, inner, rfl, hstep.trans hinner, hlast⟩

theorem read_ends (quoted : QuotedIdentifier) (cursor : Cursor) :
    (quoted.read cursor).Ends cursor.Reads cursor.Stops := by
  rcases quoted.opening_cases cursor with
    hopening | ⟨first, stop, hopening,
      ⟨atEnd, hclose, hpasses⟩ | ⟨after, inner, hclose, hpasses, -⟩⟩
  · rw [read_of_unopened hopening]
    exact rfl
  · rw [read_of_unclosed hopening hclose]
    exact ⟨rfl, cursor.rest, hpasses⟩
  · rw [read_of_closed hopening hclose hpasses]
    split
    · exact ⟨rfl, rawText first stop inner, hpasses⟩
    · exact ⟨rawText first stop inner, List.cons_ne_nil _ _, rfl, hpasses⟩

/-! ### What scanning comes to -/

/-- The content of the identifier at a cursor, as a slice. -/
def unquoted (cursor : Cursor) (first stop : Char) (inner : Text) : Slice :=
  (⟨cursor.buffer, cursor.offset + first.utf8Size, Text.escape stop inner⟩ : Slice).unescape stop
    (cursor.buffer.id + 1)

theorem text_unquoted : (unquoted cursor first stop inner).text = inner := by
  rw [unquoted, Slice.text_unescape, Text.unescape_escape]

theorem content_rawText (place : Cursor) :
    content ⟨cursor.buffer, cursor.offset, rawText first stop inner⟩ first.utf8Size stop place =
      .done (unquoted cursor first stop inner) place := by
  have hdistance : Fault.distance (Text.size (rawText first stop inner)) stop.utf8Size =
      .ok (Text.size [first] + Text.size (Text.escape stop inner)) := by
    rw [size_rawText, Fault.distance, if_pos (by omega), Text.size_cons, Text.size_nil]
    exact congrArg _ (by omega)
  have hinside : Text.between (rawText first stop inner) (Text.size [first])
      (Text.size [first] + Text.size (Text.escape stop inner)) = .ok (Text.escape stop inner) :=
    Text.between_append [first] (Text.escape stop inner) [stop]
  simp only [content, Scan.bind_apply, Slice.size, hdistance, Scan.attempt_ok, Step.bind_done,
    Slice.sub]
  change (Scan.attempt
    ((Text.between (rawText first stop inner) (Text.size [first]) _).bind _) place).bind _ = _
  rw [hinside]
  rfl

theorem scan_of_closed (hopening : quoted.opening cursor = some (first, stop))
    (hclose : close stop cursor.advance = .ok after)
    (hpasses : cursor.Passes (rawText first stop inner) after) :
    quoted.scan cursor =
      if inner = [] then .malformed (.zeroLengthIdentifier after.position) after
      else .done (some (unquoted cursor first stop inner)) after := by
  rw [scan, Scan.bind_apply, read_of_closed hopening hclose hpasses]
  split
  · rfl
  · have hfirst : (rawText first stop inner).head? = some first := rfl
    have hlast : (rawText first stop inner).tail.getLast? = some stop := List.getLast?_concat
    rw [Step.bind_done]
    dsimp only
    rw [hfirst, hlast]
    dsimp only
    rw [Scan.bind_apply, content_rawText]
    rfl

theorem scan_of_unopened (hopening : quoted.opening cursor = none) :
    quoted.scan cursor = .done none cursor := by
  rw [scan, Scan.bind_apply, read_of_unopened hopening]
  rfl

theorem scan_of_unclosed (hopening : quoted.opening cursor = some (first, stop))
    (hclose : close stop cursor.advance = .error after) :
    quoted.scan cursor =
      (Step.malformed (.unclosedQuote stop after.position) after).after
        [.unclosedQuote cursor.offset stop] := by
  rw [scan, Scan.bind_apply, read_of_unclosed hopening hclose]
  rfl

/-- Where a scan may end without an error: where it was if nothing opens there, and after an
identifier of which it gives the content. -/
def Unquotes (quoted : QuotedIdentifier) (cursor : Cursor) (found : Option Slice)
    (after : Cursor) : Prop :=
  match found with
  | none => after = cursor ∧ quoted.opening cursor = none
  | some slice => ∃ first stop, quoted.endFor first = some stop ∧ slice.text ≠ [] ∧
      cursor.Passes (rawText first stop slice.text) after ∧ after.rest.head? ≠ some stop

/-- Where a scan may end with an error: at the end of the text, after a start character, or after a
pair of quotes that holds nothing. -/
def Refuses (quoted : QuotedIdentifier) (cursor : Cursor) (error : ScanError) (after : Cursor) :
    Prop :=
  ∃ first stop, quoted.endFor first = some stop ∧
    (error = .unclosedQuote stop after.position ∧ after.rest = [] ∧
        (∃ inside, cursor.Passes (first :: inside) after) ∨
      error = .zeroLengthIdentifier after.position ∧ cursor.Passes [first, stop] after ∧
        after.rest.head? ≠ some stop)

theorem Refuses.stops {error : ScanError} (hrefuses : quoted.Refuses cursor error after) :
    cursor.Stops error after := by
  obtain ⟨first, stop, -, ⟨rfl, -, inside, hpasses⟩ | ⟨rfl, hpasses, -⟩⟩ := hrefuses
  · exact ⟨rfl, _, hpasses⟩
  · exact ⟨rfl, _, hpasses⟩

theorem scan_refuses (quoted : QuotedIdentifier) (cursor : Cursor) :
    (quoted.scan cursor).Ends (quoted.Unquotes cursor) (quoted.Refuses cursor) := by
  rcases quoted.opening_cases cursor with
    hopening | ⟨first, stop, hopening,
      ⟨atEnd, hclose, hpasses⟩ | ⟨after, inner, hclose, hpasses, hlast⟩⟩
  · rw [scan_of_unopened hopening]
    exact ⟨rfl, hopening⟩
  · obtain ⟨⟨rest, hrest⟩, hend⟩ := rest_of_opening hopening
    rw [scan_of_unclosed hopening hclose]
    rw [hrest] at hpasses
    refine ⟨first, stop, hend, .inl ⟨rfl, ?_, rest, hpasses⟩⟩
    exact List.self_eq_append_right.1 (hrest.symm.trans hpasses.rest_eq)
  · obtain ⟨-, hend⟩ := rest_of_opening hopening
    rw [scan_of_closed hopening hclose hpasses]
    by_cases hinner : inner = []
    · rw [if_pos hinner]
      subst hinner
      exact ⟨first, stop, hend, .inr ⟨rfl, hpasses, hlast⟩⟩
    · rw [if_neg hinner, Step.ends_done]
      refine ⟨first, stop, hend, ?_, ?_, hlast⟩
      · rwa [text_unquoted]
      · rwa [text_unquoted]

theorem scan_unquotes (quoted : QuotedIdentifier) (cursor : Cursor) :
    (quoted.scan cursor).Ends (quoted.Unquotes cursor) cursor.Stops :=
  (quoted.scan_refuses cursor).mono (fun _ _ hfound => hfound) fun _ _ => Refuses.stops

theorem scan_ends (quoted : QuotedIdentifier) (cursor : Cursor) :
    (quoted.scan cursor).Ends cursor.Found cursor.Stops := by
  refine (quoted.scan_unquotes cursor).mono (fun found after hfound => ?_) fun _ _ hstops => hstops
  cases found with
  | none => exact hfound.1
  | some slice =>
    obtain ⟨first, stop, -, -, hpasses, -⟩ := hfound
    exact ⟨rawText first stop slice.text, List.cons_ne_nil _ _, hpasses⟩

/-! ### The table of end characters -/

/-- The table that a list of pairs fills, the first pair last. -/
def table (specs : List QuoteSpec) : List (Option Char) :=
  specs.foldr
    (fun spec table =>
      if spec.start.toNat < 0x80 then table.set spec.start.toNat (some spec.stop) else table)
    (List.replicate 128 none)

theorem length_table (specs : List QuoteSpec) : (table specs).length = 128 := by
  induction specs with
  | nil => exact List.length_replicate
  | cons spec specs ih =>
    rw [table, List.foldr_cons]
    split
    · rw [List.length_set]
      exact ih
    · exact ih

theorem table_get {ch : Char} (hascii : ch.toNat < 0x80) (specs : List QuoteSpec) :
    (table specs)[ch.toNat]?.join = (specs.find? (·.start == ch)).map (·.stop) := by
  induction specs with
  | nil =>
    have hempty : (table [])[ch.toNat]? = some none := by
      rw [table, List.foldr_nil, List.getElem?_replicate_of_lt hascii]
    rw [hempty]
    rfl
  | cons spec specs ih =>
    by_cases hstart : spec.start = ch
    · have hset : (table (spec :: specs))[ch.toNat]? = some (some spec.stop) := by
        rw [table, List.foldr_cons, hstart, if_pos hascii]
        exact List.getElem?_set_self ((length_table specs).symm ▸ hascii)
      rw [hset, List.find?_cons, beq_iff_eq.2 hstart]
      rfl
    · have hnumber : spec.start.toNat ≠ ch.toNat := fun hsame => hstart (Char.toNat_inj.1 hsame)
      have hkeep : (table (spec :: specs))[ch.toNat]? = (table specs)[ch.toNat]? := by
        rw [table, List.foldr_cons]
        split
        · exact List.getElem?_set_ne hnumber
        · rfl
      rw [hkeep, List.find?_cons, beq_eq_false_iff_ne.2 hstart, ih]

theorem ascii_ends (quoted : QuotedIdentifier) : quoted.ends.ascii = table quoted.specs :=
  List.foldl_reverse

theorem find?_others {ch : Char} (hascii : ¬ ch.toNat < 0x80) (quoted : QuotedIdentifier) :
    quoted.ends.others.find? (fun spec => some spec.start == some ch) =
      quoted.specs.find? (·.start == ch) := by
  rw [ends, List.find?_filter]
  congr 1
  funext spec
  by_cases hstart : spec.start = ch
  · simp [hstart, hascii]
  · simp [hstart]

/-- The table and the list give for a cursor what the pairs give for its character. -/
theorem lookup_ends (quoted : QuotedIdentifier) {rest : Text} {ch : Char}
    (hrest : cursor.rest = ch :: rest) :
    quoted.ends.lookup cursor.buffer.text cursor.buffer.bytes cursor.offset =
      .ok ((quoted.opening cursor).map fun quotes => (quotes.1.utf8Size, quotes.2)) := by
  have hopening : quoted.opening cursor = (quoted.endFor ch).map fun stop => (ch, stop) := by
    rw [opening, Cursor.peek, hrest]
    rfl
  rw [Ends.lookup, Cursor.byteAt_offset hrest, hopening, Option.map_map]
  simp only [bind, Except.bind, pure, Except.pure]
  by_cases hascii : ch.toNat < 0x80
  · rw [if_pos ((Utf8.isAscii_lead ch).2 hascii), Utf8.toNat_lead hascii, ascii_ends,
      table_get hascii, ← endFor]
    simp [Function.comp_def, Utf8.utf8Size_eq_one hascii]
  · rw [if_neg fun hlead => hascii ((Utf8.isAscii_lead ch).1 hlead), cursor.dropTo_text]
    dsimp only
    rw [hrest, List.head?_cons, find?_others hascii, endFor, Option.map_map]
    cases hfind : quoted.specs.find? (·.start == ch) with
    | none => rfl
    | some spec =>
      have hstart : spec.start = ch := by simpa using List.find?_some hfind
      simp [hstart]

/-! ### The byte search -/

/-- The search from the offset of a cursor. -/
def searchAt (stop : Char) (cursor : Cursor) : Except Fault (Option Nat) :=
  search cursor.buffer.text cursor.buffer.bytes stop cursor.offset

/-- What a search finds, told by the cursor at which the walk stops. -/
def foundAt (closed : Except Cursor Cursor) : Option Nat := closed.toOption.map Cursor.offset

/-- What a search does at an end character of which the offset is known. -/
def round (text : Text) (bytes : List UInt8) (stop : Char) (offset : Nat) :
    Except Fault (Option Nat) :=
  match Utf8.dropTo bytes (offset + stop.utf8Size) with
  | .error fault => .error fault
  | .ok following =>
    if (String.utf8EncodeChar stop).isPrefixOf following then
      search text bytes stop (offset + stop.utf8Size + stop.utf8Size)
    else .ok (some (offset + stop.utf8Size))

theorem searchAt_eq_round (stop : Char) (cursor : Cursor) :
    searchAt stop cursor =
      match cursor.rest.offsetOf? (· == stop) with
      | none => .ok none
      | some leap => round cursor.buffer.text cursor.buffer.bytes stop (cursor.offset + leap) := by
  rw [searchAt, search, cursor.dropTo_text]
  dsimp only
  cases cursor.rest.offsetOf? (· == stop) with
  | none => rfl
  | some leap => rfl

theorem searchAt_of_ne {stop ch : Char} {rest : Text} (hrest : cursor.rest = ch :: rest)
    (hch : ch ≠ stop) :
    searchAt stop cursor = searchAt stop cursor.advance := by
  have hpasses := Cursor.passes_advance hrest
  have hahead := Cursor.rest_advance_of_cons hrest
  have hoffset := Cursor.offset_advance_of_cons hrest
  rw [searchAt_eq_round, searchAt_eq_round, hrest, hahead, hpasses.buffer_eq, hoffset,
    Text.offsetOf?, if_neg (by simpa using hch)]
  cases rest.offsetOf? (· == stop) with
  | none => rfl
  | some leap =>
    rw [Option.map_some]
    dsimp only
    rw [Nat.add_assoc]

theorem searchAt_of_eq {stop : Char} {rest : Text} (hrest : cursor.rest = stop :: rest) :
    searchAt stop cursor =
      if cursor.peekNth 1 = some stop then searchAt stop (cursor.skip 2)
      else .ok (some cursor.advance.offset) := by
  have hstep := Cursor.passes_advance hrest
  have hoffset := Cursor.offset_advance_of_cons hrest
  have hahead := Cursor.rest_advance_of_cons hrest
  have hfollowing :
      Utf8.dropTo cursor.buffer.bytes (cursor.offset + stop.utf8Size) = .ok (Utf8.encode rest) := by
    rw [← hoffset, ← hstep.buffer_eq, Cursor.dropTo_bytes, hahead]
  have hinitial :
      (String.utf8EncodeChar stop).isPrefixOf (Utf8.encode rest) = [stop].isPrefixOf rest := by
    rw [← Utf8.isPrefixOf_encode, Utf8.encode_cons, Utf8.encode_nil, List.append_nil]
  rw [searchAt_eq_round, hrest, Text.offsetOf?, if_pos (beq_self_eq_true stop)]
  dsimp only
  rw [Nat.add_zero, round, hfollowing]
  dsimp only
  rw [hinitial, ← hoffset, Cursor.peekNth, hrest, List.getElem?_cons_succ, ← List.head?_eq_getElem?]
  -- A further end character among the bytes is one among the characters.
  cases rest with
  | nil => rfl
  | cons next further =>
    by_cases hnext : next = stop
    · subst hnext
      have hpair : cursor.Passes [next, next] (cursor.skip 2) := by
        simpa [hrest] using cursor.passes_skip 2
      have hskip : (cursor.skip 2).offset = cursor.advance.offset + next.utf8Size := by
        rw [hpair.offset_eq, hoffset, Text.size_cons, Text.size_cons, Text.size_nil, Nat.add_zero,
          Nat.add_assoc]
      rw [if_pos (by simp), List.head?_cons, if_pos rfl, searchAt, hpair.buffer_eq, hskip]
    · rw [if_neg (by simpa using fun hsame => hnext hsame.symm), if_neg (by simpa using hnext)]

/-- The byte search for the end character stops where the walk does. -/
theorem searchAt_eq_close (stop : Char) (cursor : Cursor) :
    searchAt stop cursor = .ok (foundAt (close stop cursor)) := by
  fun_induction close stop cursor with
  | case1 cursor hrest =>
    rw [searchAt_eq_round, hrest]
    rfl
  | case2 cursor others hnext hrest ih => rw [searchAt_of_eq hrest, if_pos hnext, ih]
  | case3 cursor others hnext hrest =>
    rw [searchAt_of_eq hrest, if_neg hnext]
    rfl
  | case4 cursor ch others hrest hch ih => rw [searchAt_of_ne hrest hch, ih]

/-! ### The compiled forms -/

theorem run_compileWith (quoted : QuotedIdentifier) (unescaped : Bool) (cursor : Cursor) :
    (quoted.compileWith unescaped).run cursor =
      (if unescaped then quoted.scan cursor else quoted.read cursor).quiet := by
  simp only [compileWith, Scan.bind_apply, Scan.here_apply, Step.bind_done,
    Cursor.length_bytes_le_offset]
  by_cases hrest : cursor.rest = []
  · have hopening : quoted.opening cursor = none := by
      rw [opening, Cursor.peek, hrest]
      rfl
    rw [if_pos hrest, scan_of_unopened hopening, read_of_unopened hopening, ite_self]
    rfl
  · obtain ⟨ch, rest, hcons⟩ := List.exists_cons_of_ne_nil hrest
    rw [if_neg hrest]
    simp only [Scan.bind_apply, quoted.lookup_ends hcons, Scan.attempt_ok, Step.bind_done]
    rcases quoted.opening_cases cursor with
      hopening | ⟨first, stop, hopening,
        ⟨atEnd, hclose, hpasses⟩ | ⟨after, inner, hclose, hpasses, -⟩⟩
    · rw [scan_of_unopened hopening, read_of_unopened hopening, ite_self, hopening]
      rfl
    all_goals
      obtain ⟨⟨others, hothers⟩, -⟩ := rest_of_opening hopening
      have hstep := Cursor.passes_advance hothers
      have hstart := Cursor.offset_advance_of_cons hothers
      have hsearch := searchAt_eq_close stop cursor.advance
      rw [searchAt, hstep.buffer_eq, hstart, hclose] at hsearch
      rw [hopening, Option.map_some]
      dsimp only
      rw [Scan.bind_apply, hsearch, Scan.attempt_ok, Step.bind_done]
    · have hend : atEnd.offset = cursor.buffer.bytes.length := by
        rw [hpasses.offset_eq, cursor.offset_add_size_rest]
      rw [scan_of_unclosed hopening hclose, read_of_unclosed hopening hclose, ite_self,
        Step.quiet_after_trace _ rfl, Step.quiet_malformed, ← hend]
      exact Scan.failAt_of_passes hpasses _
    · have hcommit := Scan.commit_of_passes hpasses
      have hfound : foundAt (.ok after) = some after.offset := rfl
      rw [scan_of_closed hopening hclose hpasses, read_of_closed hopening hclose hpasses, hfound]
      simp only [Scan.bind_apply, distance_of_passes hpasses, Scan.attempt_ok, Step.bind_done,
        size_rawText_eq_iff]
      by_cases hinner : inner = []
      · rw [if_pos hinner, if_pos hinner, if_pos hinner, ite_self]
        exact Scan.failAt_of_passes hpasses _
      · rw [if_neg hinner, if_neg hinner, if_neg hinner, Scan.bind_apply, hcommit, Step.bind_done]
        cases unescaped with
        | false => rfl
        | true =>
          rw [if_pos rfl, if_pos rfl, Scan.bind_apply, content_rawText]
          rfl

theorem run_compileRead (quoted : QuotedIdentifier) (cursor : Cursor) :
    quoted.compileRead.run cursor = (quoted.read cursor).quiet :=
  quoted.run_compileWith false cursor

theorem run_compile (quoted : QuotedIdentifier) (cursor : Cursor) :
    quoted.compile.run cursor = (quoted.scan cursor).quiet :=
  quoted.run_compileWith true cursor

end Lexkit.QuotedIdentifier
