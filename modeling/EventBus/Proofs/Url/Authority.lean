import EventBus.Proofs.Span
import EventBus.Proofs.Url.Percent
import EventBus.Text.Blank
import EventBus.Url
import Mathlib.Data.Bool.AllAny

namespace EventBus.Url

theorem clean_of_visible {text : List Char} (h : ∀ c ∈ text, ' ' < c) : clean text = text := by
  have houter : ∀ c ∈ text, decide (c ≤ ' ') = false := by
    intro c hc
    exact decide_eq_false (Char.not_le.mpr (h c hc))
  have hreverse : ∀ c ∈ text.reverse, decide (c ≤ ' ') = false := by
    intro c hc
    exact houter c (List.mem_reverse.mp hc)
  have hinner : ∀ c ∈ text, (c ≠ '\t' && c ≠ '\n' && c ≠ '\r') = true := by
    have hnot : ∀ d ≤ ' ', d ∉ text := by
      intro d hd hmem
      exact Char.not_le.mpr (h d hmem) hd
    have htab := Span.ne_of_not_mem (hnot '\t' (by decide))
    have hline := Span.ne_of_not_mem (hnot '\n' (by decide))
    have hreturn := Span.ne_of_not_mem (hnot '\r' (by decide))
    intro c hc
    simp only [htab c hc, hline c hc, hreturn c hc, Bool.and_self]
  simp only [clean]
  rw [Span.dropWhile_of_forall houter, Span.dropWhile_of_forall hreverse, List.reverse_reverse,
    List.filter_eq_self.mpr hinner]

theorem splitUser_append {user address : List Char} (h : '@' ∉ address) :
    splitUser (user ++ '@' :: address) = (some user, address) := by
  have hstop : ∀ c ∈ address.reverse, decide (c ≠ '@') = true :=
    Span.ne_of_not_mem (mt List.mem_reverse.mp h)
  have htake := Span.takeWhile_append_cons (x := '@') hstop rfl user.reverse
  have hdrop := Span.dropWhile_append_cons (x := '@') hstop rfl user.reverse
  have hreverse : (user ++ '@' :: address).reverse = address.reverse ++ '@' :: user.reverse := by
    simp
  simp only [splitUser, hreverse, hdrop, htake, List.reverse_reverse]

theorem credentials_append {name password : List Char} (hname : ':' ∉ name)
    (hpassword : password ≠ []) :
    credentials (name ++ ':' :: password) =
      (String.ofList (Percent.encode userReserved.contains name),
        some (String.ofList (Percent.encode userReserved.contains password))) := by
  have hstop : ∀ c ∈ name, decide (c ≠ ':') = true := Span.ne_of_not_mem hname
  obtain ⟨c, rest, rfl⟩ := List.exists_cons_of_ne_nil hpassword
  simp only [credentials]
  rw [Span.takeWhile_append_cons hstop rfl, Span.dropWhile_append_cons hstop rfl]

theorem not_encoded_of_userReserved {c : Char} (h : userReserved.contains c = true) :
    ¬Percent.Encoded c := by
  have hnone : ∀ d ∈ userReserved, ¬Percent.Encoded d :=
    List.all_iff_forall_prop.mp (by decide)
  exact hnone c (List.contains_iff_mem.mp h)

theorem credentials_encodeAll {name password : List Char} (hpassword : password ≠ []) :
    credentials (Percent.encodeAll name ++ ':' :: Percent.encodeAll password) =
      (String.ofList (Percent.encodeAll name),
        some (String.ofList (Percent.encodeAll password))) := by
  have hname : ':' ∉ Percent.encodeAll name := by
    intro hc
    exact absurd (Percent.encoded_of_mem_encodeAll hc) (by decide)
  have hkept (text : List Char) :
      Percent.encode userReserved.contains (Percent.encodeAll text) = Percent.encodeAll text :=
    Percent.encode_of_encoded (fun _ => Percent.encoded_of_mem_encodeAll)
      fun _ => not_encoded_of_userReserved
  rw [credentials_append hname (Percent.encodeAll_ne_nil hpassword), hkept, hkept]

theorem read?_of_user {user address hostText portText host : List Char} {port : Option UInt16}
    (hvisible : ∀ c ∈ user ++ '@' :: address, ' ' < c ∧ endsAuthority c = false)
    (haddress : '@' ∉ address) (hsplit : splitHost false address = (hostText, portText))
    (hhost : host? hostText = some host) (hport : port? portText = some port) :
    read? (String.ofList ("mqtt://".toList ++ (user ++ '@' :: address))) =
      some ⟨"mqtt", (credentials user).1, (credentials user).2, String.ofList host, port⟩ := by
  have hclean : clean ("mqtt://".toList ++ (user ++ '@' :: address)) =
      "mqtt://".toList ++ (user ++ '@' :: address) := by
    refine clean_of_visible ?_
    intro c hc
    rcases List.mem_append.mp hc with hc | hc
    · have hscheme : ∀ d ∈ "mqtt://".toList, ' ' < d := List.all_iff_forall_prop.mp (by decide)
      exact hscheme c hc
    · exact (hvisible c hc).1
  have hscheme : scheme? ("mqtt://".toList ++ (user ++ '@' :: address)) =
      some ("mqtt".toList, '/' :: '/' :: (user ++ '@' :: address)) := by rfl
  have hauthority :
      (user ++ '@' :: address).takeWhile (fun c => !endsAuthority c) = user ++ '@' :: address := by
    refine Span.takeWhile_of_forall ?_
    intro c hc
    simp [(hvisible c hc).2]
  rw [read?, String.toList_ofList, hclean, hscheme]
  simp only [bind, Option.bind, hauthority, splitUser_append haddress, Option.getD_some, hsplit,
    hhost, hport, String.ofList_toList]

/-- A character that a name of a host begins with is seen, as it is or encoded. -/
theorem exists_encode_of_not_forbidden {c : Char} (h : c ∉ hostForbidden) (rest : List Char) :
    ∃ d more, Percent.encode (fun _ => false) (c :: rest) = d :: more ∧ Text.isBlank d = false := by
  rw [Percent.encode_cons]
  split
  · obtain ⟨k, mark, -, hbytes⟩ := Utf8.exists_form c
    have hcons : Utf8.encode [c] = Utf8.encodeChar c ++ [] := List.flatMap_cons
    rw [hcons, hbytes, List.append_nil, List.flatMap_cons]
    exact ⟨'%', _, rfl, by decide⟩
  · next hplain =>
    refine ⟨c, _, rfl, ?_⟩
    have hspace : c.toNat ≠ 0x20 := by
      intro hn
      obtain rfl : c = ' ' := Char.toNat_inj.mp hn
      exact h (by decide)
    simp only [Percent.isControl, Bool.or_false, Bool.or_eq_true, decide_eq_true_eq] at hplain
    simp only [Text.isBlank, Bool.or_eq_false_iff, Bool.and_eq_false_iff, decide_eq_false_iff_not]
    omega

theorem exists_of_host? {text host : List Char} (h : host? text = some host) :
    ∃ c rest, host = c :: rest ∧ Text.isBlank c = false := by
  unfold host? at h
  split at h
  · cases h
  · split at h
    · obtain ⟨address, -, rfl⟩ := Option.map_eq_some_iff.mp h
      exact ⟨'[', _, rfl, by decide⟩
    · cases h
  · next hne _ =>
    split at h
    · cases h
    · next hallowed =>
      obtain ⟨c, rest, rfl⟩ := List.exists_cons_of_ne_nil hne
      obtain rfl := Option.some.inj h
      have hc : c ∉ hostForbidden := by
        intro hc
        exact hallowed
          (List.any_eq_true.mpr ⟨c, List.mem_cons_self, List.contains_iff_mem.mpr hc⟩)
      exact exists_encode_of_not_forbidden hc rest

theorem allBlank_host {url : String} {parts : Url} (h : read? url = some parts) :
    Text.allBlank parts.host = false := by
  obtain ⟨⟨scheme, rest⟩, -, h⟩ := Option.bind_eq_some_iff.mp h
  dsimp only at h
  split at h
  · obtain ⟨host, hhost, h⟩ := Option.bind_eq_some_iff.mp h
    obtain ⟨port, -, h⟩ := Option.bind_eq_some_iff.mp h
    obtain ⟨c, more, rfl, hblank⟩ := exists_of_host? hhost
    obtain rfl := Option.some.inj h
    simp [Text.allBlank, hblank]
  · cases h

end EventBus.Url
