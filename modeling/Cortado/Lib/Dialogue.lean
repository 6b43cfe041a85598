import Mathlib.Algebra.Order.Ring.Nat

/-!
# Dialogues over a byte stream

One side of a connection: it writes bytes, reads exact numbers of bytes from
what the peer sends, and may give up.  What was written and what was not read
are kept when it gives up.
-/

namespace Dialogue

/-- The bytes of the peer that were not read yet, and those written to it. -/
structure Line where
  unread : List UInt8
  written : List UInt8
  deriving DecidableEq, Repr

abbrev Talk (ε α : Type) := ExceptT ε (StateM Line) α

variable {ε α β : Type}

def Talk.on (talk : Talk ε α) (line : Line) : Except ε α × Line :=
  talk.run.run line

def writeAll (bytes : List UInt8) : Talk ε Unit :=
  modify fun line => { line with written := line.written ++ bytes }

/-- At the end of the stream the rest of it is lost. -/
def readExact (count : Nat) (eof : ε) : Talk ε (Vector UInt8 count) := do
  let line ← get
  if enough : count ≤ line.unread.length then
    set { line with unread := line.unread.drop count }
    return ⟨(line.unread.take count).toArray, by simp [enough]⟩
  else
    set { line with unread := [] }
    throw eof

theorem on_pure (value : α) (line : Line) :
    Talk.on (pure value : Talk ε α) line = (.ok value, line) :=
  rfl

theorem on_throw (error : ε) (line : Line) :
    Talk.on (throw error : Talk ε α) line = (.error error, line) :=
  rfl

theorem on_bind (talk : Talk ε α) (rest : α → Talk ε β) (line : Line) :
    Talk.on (talk >>= rest) line =
      match talk.on line with
      | (.ok value, next) => (rest value).on next
      | (.error error, next) => (.error error, next) := by
  change (match talk.on line with
    | (result, next) => (ExceptT.bindCont rest result).run next) = _
  rcases talk.on line with ⟨result, next⟩
  cases result with
  | ok value => rfl
  | error error => rfl

theorem on_bind_ok {talk : Talk ε α} {line next : Line} {value : α}
    (rest : α → Talk ε β) (answered : talk.on line = (.ok value, next)) :
    Talk.on (talk >>= rest) line = (rest value).on next := by
  rw [on_bind, answered]

theorem on_bind_error {talk : Talk ε α} {line next : Line} {error : ε}
    (rest : α → Talk ε β) (failed : talk.on line = (.error error, next)) :
    Talk.on (talk >>= rest) line = (.error error, next) := by
  rw [on_bind, failed]

theorem on_writeAll (bytes : List UInt8) (line : Line) :
    Talk.on (writeAll bytes : Talk ε Unit) line =
      (.ok (), { line with written := line.written ++ bytes }) :=
  rfl

theorem readExact_on_of_le {count : Nat} (eof : ε) {line : Line}
    (enough : count ≤ line.unread.length) :
    (readExact count eof).on line =
      (.ok ⟨(line.unread.take count).toArray,
          List.size_toArray.trans (List.length_take_of_le enough)⟩,
        { line with unread := line.unread.drop count }) := by
  unfold readExact
  rw [on_bind_ok _ (rfl : Talk.on get line = (.ok line, line)), dif_pos enough]
  rfl

theorem on_readExact_eof {count : Nat} (eof : ε) {line : Line}
    (short : line.unread.length < count) :
    (readExact count eof).on line =
      (.error eof, { line with unread := [] }) := by
  unfold readExact
  rw [on_bind_ok _ (rfl : Talk.on get line = (.ok line, line)),
    dif_neg (Nat.not_le.mpr short)]
  rfl

/-! ## Grammars of replies -/

/-- Replies of a peer with what they mean. -/
abbrev Grammar (α : Type) := List UInt8 → α → Prop

namespace Grammar

/-- No reply continues another one, and a reply has one meaning. -/
def Code (grammar : Grammar α) : Prop :=
  ∀ ⦃first second after later : List UInt8⦄ ⦃left right : α⦄,
    grammar first left → grammar second right →
      first ++ after = second ++ later → first = second ∧ left = right

/-- The reply that is empty. -/
def silence (value : α) : Grammar α :=
  fun reply meaning => reply = [] ∧ meaning = value

def nothing : Grammar α :=
  fun _ _ => False

/-- Any bytes of a number. -/
def bytes (count : Nat) : Grammar (Vector UInt8 count) :=
  fun reply meaning => reply = meaning.toList

/-- A reply, and then one of a grammar that it determines. -/
def andThen (grammar : Grammar α) (next : α → Grammar β) : Grammar β :=
  fun reply meaning => ∃ first middle second,
    reply = first ++ second ∧ grammar first middle ∧
      next middle second meaning

/-- The grammar, if a condition holds. -/
def when (grammar : Grammar α) (condition : Prop) : Grammar α :=
  fun reply meaning => condition ∧ grammar reply meaning

/-- The replies with their meanings turned into others. -/
def map (grammar : Grammar α) (turn : α → β) : Grammar β :=
  fun reply meaning => ∃ value, grammar reply value ∧ meaning = turn value

/-- Some reply of the grammar comes first. -/
def Heads (grammar : Grammar α) (stream : List UInt8) : Prop :=
  ∃ reply meaning, grammar reply meaning ∧ reply <+: stream

/-- Replies of one length with one meaning each. -/
theorem code_of_length {grammar : Grammar α} {length : Nat}
    (long : ∀ {reply value}, grammar reply value → reply.length = length)
    (unique : ∀ {reply left right}, grammar reply left →
      grammar reply right → left = right) : grammar.Code := by
  intro first second after later left right isFirst isSecond same
  obtain ⟨rfl, _⟩ :=
    List.append_inj same ((long isFirst).trans (long isSecond).symm)
  exact ⟨rfl, unique isFirst isSecond⟩

theorem code_bytes (count : Nat) : (bytes count).Code := by
  apply code_of_length
  · rintro reply value rfl
    exact Vector.length_toList
  · intro reply left right isLeft isRight
    exact Vector.toList_inj.mp (isLeft.symm.trans isRight)

theorem Code.when {grammar : Grammar α} (code : grammar.Code)
    (condition : Prop) : (grammar.when condition).Code := by
  intro first second after later left right isFirst isSecond
  exact code isFirst.2 isSecond.2

theorem Code.map {grammar : Grammar α} (code : grammar.Code)
    (turn : α → β) : (grammar.map turn).Code := by
  rintro first second after later _ _ ⟨left, isFirst, rfl⟩ ⟨right, isSecond, rfl⟩
    same
  obtain ⟨rfl, rfl⟩ := code isFirst isSecond same
  exact ⟨rfl, rfl⟩

theorem Code.congr {grammar other : Grammar α} (code : grammar.Code)
    (same : ∀ reply value, grammar reply value ↔ other reply value) :
    other.Code := by
  intro first second after later left right isFirst isSecond
  exact code ((same _ _).mpr isFirst) ((same _ _).mpr isSecond)

theorem Code.andThen {grammar : Grammar α} {next : α → Grammar β}
    (code : grammar.Code) (codes : ∀ value, (next value).Code) :
    (grammar.andThen next).Code := by
  rintro _ _ after later left right ⟨first, middle, second, rfl, isFirst, isSecond⟩
    ⟨otherFirst, otherMiddle, otherSecond, rfl, isOtherFirst, isOtherSecond⟩ same
  rw [List.append_assoc, List.append_assoc] at same
  obtain ⟨rfl, rfl⟩ := code isFirst isOtherFirst same
  obtain ⟨rfl, rfl⟩ := codes middle isSecond isOtherSecond
    (List.append_cancel_left same)
  exact ⟨rfl, rfl⟩

end Grammar

/-- The talk reads a reply of the grammar and nothing more, or fails where
the stream has no such reply at its head; it writes `said` in both cases. -/
inductive Settled (grammar : Grammar α) (said : List UInt8)
    (talk : Talk ε α) (line : Line) : Prop
  | accepted {reply rest : List UInt8} {value : α}
      (means : grammar reply value) (reads : line.unread = reply ++ rest)
      (answered : talk.on line =
        (.ok value, { unread := rest, written := line.written ++ said }))
  | refused {error : ε} {next : Line} (foreign : ¬grammar.Heads line.unread)
      (failed : talk.on line = (.error error, next))
      (spoken : next.written = line.written ++ said)

section Rules

variable {grammar other : Grammar α} {said more : List UInt8}
  {talk : Talk ε α} {line : Line}

theorem settled_pure (value : α) (line : Line) :
    Settled (.silence value) [] (pure value : Talk ε α) line := by
  apply Settled.accepted ⟨rfl, rfl⟩ rfl
  rw [on_pure, List.append_nil]

theorem settled_throw (error : ε) (line : Line) :
    Settled (.nothing : Grammar α) [] (throw error : Talk ε α) line := by
  apply Settled.refused _ (on_throw error line) (List.append_nil _).symm
  rintro ⟨_, _, impossible, _⟩
  exact impossible

theorem settled_readExact (count : Nat) (eof : ε) (line : Line) :
    Settled (.bytes count) [] (readExact count eof) line := by
  by_cases enough : count ≤ line.unread.length
  · have read := readExact_on_of_le eof enough
    rw [← List.append_nil line.written] at read
    refine Settled.accepted ?_ (List.take_append_drop count line.unread).symm read
    rw [Grammar.bytes, Vector.toList_mk]
  · have short := Nat.lt_of_not_le enough
    apply Settled.refused _ (on_readExact_eof eof short)
      (List.append_nil _).symm
    rintro ⟨reply, meaning, rfl, rest, whole⟩
    rw [← whole, List.length_append, Vector.length_toList] at short
    omega

theorem Settled.congr (same : ∀ reply value, grammar reply value ↔
      other reply value) (settled : Settled grammar said talk line) :
    Settled other said talk line := by
  cases settled with
  | accepted means reads answered =>
      exact .accepted ((same _ _).mp means) reads answered
  | refused foreign failed spoken =>
      refine .refused ?_ failed spoken
      rintro ⟨reply, value, means, heads⟩
      exact foreign ⟨reply, value, (same _ _).mpr means, heads⟩

theorem Settled.map (turn : α → β)
    (settled : Settled grammar said talk line) :
    Settled (grammar.map turn) said (talk >>= fun value => pure (turn value))
      line := by
  cases settled with
  | accepted means reads answered =>
      refine .accepted ⟨_, means, rfl⟩ reads ?_
      rw [on_bind_ok _ answered, on_pure]
  | refused foreign failed spoken =>
      refine .refused ?_ (on_bind_error _ failed) spoken
      rintro ⟨reply, _, ⟨value, means, rfl⟩, heads⟩
      exact foreign ⟨reply, value, means, heads⟩

/-- A check that ends the talk. -/
theorem Settled.orThrow {condition : Prop} [Decidable condition] (error : ε)
    (settled : ¬condition → Settled grammar said talk line)
    (silent : condition → said = []) :
    Settled (grammar.when ¬condition) said
      (if condition then throw error else talk) line := by
  by_cases holds : condition
  · rw [if_pos holds, silent holds]
    refine .refused ?_ (on_throw error line) (List.append_nil _).symm
    rintro ⟨_, _, ⟨fails, _⟩, _⟩
    exact fails holds
  · rw [if_neg holds]
    refine (settled holds).congr ?_
    intro reply value
    exact (and_iff_right holds).symm

/-- Bytes written first. -/
theorem Settled.say {rest : Unit → Talk ε α} {bytes : List UInt8}
    (settled : Settled grammar more (rest ())
      { line with written := line.written ++ bytes })
    (total : bytes ++ more = said) :
    Settled grammar said (writeAll bytes >>= rest) line := by
  subst total
  have whole := on_bind_ok rest (on_writeAll bytes line)
  cases settled with
  | @accepted reply after value means reads answered =>
      have unread : line.unread = reply ++ after := reads
      refine .accepted means unread ?_
      rw [whole, answered, List.append_assoc]
  | refused foreign failed spoken =>
      have unheaded : ¬grammar.Heads line.unread := foreign
      refine .refused unheaded (whole.trans failed) ?_
      rw [spoken, List.append_assoc]

/-- One talk after another.  The second one writes only if it is reached. -/
theorem Settled.bind {next : α → Grammar β} {rest : α → Talk ε β}
    {whole : List UInt8}
    (code : grammar.Code) (first : Settled grammar said talk line)
    (second : ∀ {reply after value}, grammar reply value →
      line.unread = reply ++ after →
        Settled (next value) more (rest value)
          { unread := after, written := line.written ++ said })
    (silent : ¬grammar.Heads line.unread → more = [])
    (total : said ++ more = whole) :
    Settled (grammar.andThen next) whole (talk >>= rest) line := by
  subst total
  cases first with
  | @accepted reply after value means reads answered =>
      have continued := on_bind_ok rest answered
      cases second means reads with
      | @accepted later remaining result meansNext readsNext answeredNext =>
          have unread : line.unread = reply ++ later ++ remaining := by
            rw [reads, List.append_assoc]
            exact congrArg _ readsNext
          refine .accepted ⟨reply, value, later, rfl, means, meansNext⟩
            unread ?_
          rw [continued, answeredNext, List.append_assoc]
      | refused foreign failed spoken =>
          refine .refused ?_ (continued.trans failed) ?_
          · rintro ⟨_, result, ⟨other, middle, later, rfl, isOther, isLater⟩,
              remaining, heads⟩
            rw [reads, List.append_assoc] at heads
            obtain ⟨rfl, rfl⟩ := code isOther means heads
            exact foreign ⟨later, result, isLater, remaining,
              List.append_cancel_left heads⟩
          · rw [spoken, List.append_assoc]
  | refused foreign failed spoken =>
      refine .refused ?_ (on_bind_error rest failed) ?_
      · rintro ⟨_, _, ⟨reply, middle, later, rfl, means, _⟩, remaining, heads⟩
        apply foreign
        refine ⟨reply, middle, means, later ++ remaining, ?_⟩
        rw [← heads, List.append_assoc]
      · rw [spoken, silent foreign, List.append_nil]

theorem Settled.written (settled : Settled grammar said talk line) :
    (talk.on line).2.written = line.written ++ said := by
  cases settled with
  | accepted means reads answered => rw [answered]
  | refused foreign failed spoken => rw [failed, spoken]

/-- The talk succeeds exactly on the replies of the grammar, and reads
exactly them. -/
theorem Settled.ok_iff (code : grammar.Code)
    (settled : Settled grammar said talk line) (value : α)
    (rest : List UInt8) :
    ((talk.on line).1 = .ok value ∧ (talk.on line).2.unread = rest) ↔
      ∃ reply, grammar reply value ∧ line.unread = reply ++ rest := by
  cases settled with
  | @accepted reply after read means reads answered =>
      rw [answered]
      constructor
      · rintro ⟨same, rfl⟩
        cases same
        exact ⟨reply, means, reads⟩
      · rintro ⟨other, otherMeans, otherReads⟩
        have same := reads.symm.trans otherReads
        obtain ⟨rfl, rfl⟩ := code means otherMeans same
        exact ⟨rfl, List.append_cancel_left same⟩
  | refused foreign failed spoken =>
      rw [failed]
      constructor
      · rintro ⟨impossible, _⟩
        cases impossible
      · rintro ⟨reply, means, reads⟩
        exact absurd ⟨reply, value, means, rest, reads.symm⟩ foreign

end Rules

end Dialogue
