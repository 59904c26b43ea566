import ThingLink.CredentialStore
import ThingLink.Proofs.Json.Quoted

/-!
# Credentials read back

A credentials document is an object with two members, each a quoted string, whatever the
characters of the token are.  Reading it gives the credentials that were written, so what is
saved in a file is loaded from it for as long as the file says the same.
-/

namespace ThingLink

namespace Json

/-! ## Members of an object -/

/-- A member of strings as a document spells it, and what is behind it. -/
def memberText (key value : String) (rest : List Char) : List Char :=
  (quote key).toList ++ ':' :: ([' '] ++ ((quote value).toList ++ rest))

section Members

variable (fuel : Nat) (key value : String) {gap : List Char}

theorem scanEntries_gap (blank : gap.all isSpace) (cs : List Char) :
    scanEntries fuel (gap ++ cs) = scanEntries fuel cs := by
  cases fuel with
  | zero => rfl
  | succ fuel => rw [scanEntries, scanEntries, scanTree_gap blank]

/-- A member of strings is scanned as its key and its value, and what is behind the value
decides whether another member follows. -/
theorem scanTree_memberText (rest : List Char) :
    ∃ k v, k.decode = .ok key ∧ v.decode = .ok value
      ∧ scanTree (fuel + 1) (memberText key value rest)
        = (.text k, ':' :: ([' '] ++ ((quote value).toList ++ rest)))
      ∧ scanTree (fuel + 1) ([' '] ++ ((quote value).toList ++ rest)) = (.text v, rest) := by
  obtain ⟨v, found, meant⟩ := scanTree_quote fuel value rest
  obtain ⟨k, named, spelled⟩ := scanTree_quote fuel key
    (':' :: ([' '] ++ ((quote value).toList ++ rest)))
  exact ⟨k, v, spelled, meant, named, (scanTree_gap rfl _ _).trans found⟩

theorem scanEntries_more (more : List Char) :
    ∃ k v, k.decode = .ok key ∧ v.decode = .ok value
      ∧ scanEntries (fuel + 2) (memberText key value (',' :: more))
        = (.entry (.text k) (.text v) (scanEntries (fuel + 1) more).1,
            (scanEntries (fuel + 1) more).2) := by
  obtain ⟨k, v, spelled, meant, named, found⟩ := scanTree_memberText fuel key value (',' :: more)
  refine ⟨k, v, spelled, meant, ?_⟩
  rw [scanEntries]
  simp only [named, skipSpace_cons (c := ':') rfl, found, skipSpace_cons (c := ',') rfl]

theorem scanEntries_last {rest more : List Char} (brace : skipSpace rest = '}' :: more) :
    ∃ k v, k.decode = .ok key ∧ v.decode = .ok value
      ∧ scanEntries (fuel + 2) (memberText key value rest)
        = (.entry (.text k) (.text v) (.finish none), more) := by
  obtain ⟨k, v, spelled, meant, named, found⟩ := scanTree_memberText fuel key value rest
  refine ⟨k, v, spelled, meant, ?_⟩
  rw [scanEntries]
  simp only [named, skipSpace_cons (c := ':') rfl, found, brace]

/-- An object whose first member is one of strings. -/
theorem scanTree_object (blank : gap.all isSpace) (rest : List Char) :
    let entries := scanEntries fuel (memberText key value rest)
    scanTree (fuel + 1) ('{' :: (gap ++ memberText key value rest))
      = (.object entries.1, entries.2) := by
  have ahead : skipSpace (gap ++ memberText key value rest) = memberText key value rest := by
    rw [skipSpace_append blank, memberText, quote_toList]
    exact skipSpace_cons rfl _
  rw [scanTree, skipSpace_cons rfl]
  simp only [ahead]
  rw [memberText, quote_toList, List.cons_append]
  rfl

end Members

end Json

namespace Credentials

open Json

/-- What stands before a member of a document. -/
def indent : List Char :=
  ['\n', ' ', ' ']

theorem document_toList (c : Credentials) :
    c.document.toList
      = '{' :: (indent ++ memberText "uuid" c.uuid
          (',' :: (indent ++ memberText "token" c.token ['\n', '}', '\n']))) := by
  unfold document
  simp only [String.toList_append, List.append_assoc]
  rfl

/-- The document of credentials is taken apart into its two members. -/
theorem scanTree_document (c : Credentials) (fuel : Nat) :
    ∃ k v l w, k.decode = .ok "uuid" ∧ v.decode = .ok c.uuid ∧ l.decode = .ok "token"
      ∧ w.decode = .ok c.token
      ∧ scanTree (fuel + 4) c.document.toList
        = (.object (.entry (.text k) (.text v) (.entry (.text l) (.text w) (.finish none))),
            ['\n']) := by
  have blank : indent.all isSpace := rfl
  have brace : skipSpace ['\n', '}', '\n'] = ['}', '\n'] := rfl
  obtain ⟨l, w, second, token, last⟩ := scanEntries_last fuel "token" c.token brace
  obtain ⟨k, v, first, uuid, entries⟩ := scanEntries_more (fuel + 1) "uuid" c.uuid
    (indent ++ memberText "token" c.token ['\n', '}', '\n'])
  rw [scanEntries_gap (fuel + 2) blank, last] at entries
  refine ⟨k, v, l, w, first, uuid, second, token, ?_⟩
  rw [document_toList, scanTree_object (fuel + 3) "uuid" c.uuid blank, entries]

theorem read_shape {k v l w : StringText} {uuid token : String} {room : Nat} (inside : 0 < room)
    (first : k.decode = .ok "uuid") (uuid_text : v.decode = .ok uuid)
    (second : l.decode = .ok "token") (token_text : w.decode = .ok token) :
    shape.read room
        (.object (.entry (.text k) (.text v) (.entry (.text l) (.text w) (.finish none))))
      = .ok (uuid, token) := by
  obtain ⟨room, rfl⟩ := Nat.exists_eq_succ_of_ne_zero (Nat.ne_of_gt inside)
  simp [Shape.read, Shape.readEntries, Tree.key, first, second, shape, Tree.asText, uuid_text,
    token_text, raise, required, bind, Except.bind, pure, Except.pure, Except.map]

/-- Reading a document gives the credentials that it was written from. -/
theorem ofDocument_document (c : Credentials) : ofDocument c.document = .ok c := by
  obtain ⟨rest, opened⟩ : ∃ rest, c.document.toList = '{' :: rest := ⟨_, c.document_toList⟩
  obtain ⟨k, v, l, w, first, uuid, second, token, scanned⟩ := c.scanTree_document (2 * rest.length)
  -- the fuel is measured by the text, and two members need four units of it
  have fuel : 2 * c.document.toList.length + 2 = 2 * rest.length + 4 := by
    rw [opened, List.length_cons]
    omega
  have made : make c.uuid c.token = .ok c := make_eq_ok_iff.mpr ⟨rfl, rfl⟩
  have read :
      ofTree maxNesting
          (.object (.entry (.text k) (.text v) (.entry (.text l) (.text w) (.finish none))))
        = .ok c := by
    rw [ofTree, read_shape (by decide) first uuid second token]
    simp only [bind, Except.bind, made]
    rfl
  rw [ofDocument, readDocument, Tree.ofText, fuel, scanned]
  simp only [bind, Except.bind, read]
  rfl

end Credentials

namespace CredentialStore

theorem load_congr {files others : Files} {path : String}
    (same : others.read path = files.read path) : load others path = load files path := by
  rw [load, load, same]

/-- What was saved is loaded, for as long as the file says the same. -/
theorem load_save {files after : Files} {path : String} {c : Credentials}
    (saved : save files path c = .ok after) : load after path = .ok (some c) := by
  unfold save at saved
  split at saved
  · exact nomatch saved
  · next written =>
    cases saved
    simp only [load, Files.read_write written, c.ofDocument_document]

end CredentialStore

end ThingLink
