import SignalRelay.Message.Notice
import SignalRelay.Proofs.Text.Numeral
import SignalRelay.Proofs.Text.Tokens

/-!
# Notices are read as they are written

`Notice.parse?` is what a peer has to do to understand the relay. No notice is taken for another one
(`Notice.parse?_render`), so a peer can tell from the text alone which client comes or goes.
-/

namespace SignalRelay

namespace Notice

/-- The client id that follows a mark at the head of a text. -/
def idAfter? (mark : String) (s : String) : Option ClientId :=
  (List.isPrefixOf? mark.toList s.toList).bind fun rest => ClientId.parse? (String.ofList rest)

def parse? (s : String) : Option Notice :=
  if s = "REGISTERED" then some registered
  else ((idAfter? "ASSIGNED UID " s).map assignedUid).or
    (((idAfter? "BIND-SESSION-CLIENT " s).map bindClient).or
      ((idAfter? "UNBIND-SESSION-CLIENT " s).map unbindClient))

theorem idAfter?_append (mark : String) (id : ClientId) :
    idAfter? mark (mark ++ id.text) = some id := by
  rw [idAfter?, String.toList_append, isPrefixOf?_eq_some_iff.2 rfl, Option.bind_some,
    String.ofList_toList, ClientId.parse?_text]

theorem idAfter?_eq_none {mark other : String}
    (h : ∀ rest, List.isPrefixOf? mark.toList (other.toList ++ rest) = none) (id : ClientId) :
    idAfter? mark (other ++ id.text) = none := by
  rw [idAfter?, String.toList_append, h, Option.bind_none]

theorem append_text_ne {other : String} (h : ∀ rest, other.toList ++ rest ≠ "REGISTERED".toList)
    (id : ClientId) : other ++ id.text ≠ "REGISTERED" := by
  intro heq
  have hlist := congrArg String.toList heq
  rw [String.toList_append] at hlist
  exact h _ hlist

/-- **A notice is read as it is written.** -/
theorem parse?_render (notice : Notice) : parse? notice.render = some notice := by
  cases notice with
  | registered => rfl
  | assignedUid id =>
    have htext : (assignedUid id).render = "ASSIGNED UID " ++ id.text := rfl
    rw [htext, parse?, if_neg (append_text_ne (fun rest h => by cases h) id), idAfter?_append]
    rfl
  | bindClient id =>
    have htext : (bindClient id).render = "BIND-SESSION-CLIENT " ++ id.text := rfl
    rw [htext, parse?, if_neg (append_text_ne (fun rest h => by cases h) id), idAfter?_append,
      idAfter?_eq_none (fun rest => rfl) id]
    rfl
  | unbindClient id =>
    have htext : (unbindClient id).render = "UNBIND-SESSION-CLIENT " ++ id.text := rfl
    rw [htext, parse?, if_neg (append_text_ne (fun rest h => by cases h) id), idAfter?_append,
      idAfter?_eq_none (fun rest => rfl) id, idAfter?_eq_none (fun rest => rfl) id]
    rfl

end Notice

end SignalRelay
