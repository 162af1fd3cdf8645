import MemeEvents.Protocol.Table
import MemeEvents.Proofs.Bytes.Strings
import MemeEvents.Proofs.Decode.Steps

/-! The instructions and events that create a token. -/

namespace MemeEvents

open Cursor Read

structure TokenMetadata where
  name : String
  symbol : String
  uri : String

namespace TokenMetadata

def Fits (metadata : TokenMetadata) : Prop :=
  metadata.name.utf8ByteSize < 2 ^ 32 ∧ metadata.symbol.utf8ByteSize < 2 ^ 32 ∧
    metadata.uri.utf8ByteSize < 2 ^ 32

def write (metadata : TokenMetadata) : List UInt8 :=
  counted metadata.name.toUTF8.toList ++
    (counted metadata.symbol.toUTF8.toList ++ counted metadata.uri.toUTF8.toList)

structure Announced (metadata : TokenMetadata) (event : Event) (mint quote user creator : Pubkey) :
    Prop where
  kind : event.kind = .create
  name : event.name = some metadata.name
  symbol : event.symbol = some metadata.symbol
  uri : event.uri = some metadata.uri
  baseMint : event.baseMint = some mint
  quoteMint : event.quoteMint = some quote
  user : event.user = some user
  creator : event.creator = some creator

/-- How `protocol` decodes the creation of a token from data opened by one of `openings`: a field
of `leadWidth` bytes, the texts, and `tailWidth` bytes of fields after them. Written in full, with
anything after, and with at least `accounts` accounts, the data decode to an event of which
`reports` holds (given the context, the texts, the tail and the bytes after it); cut short
inside the fields, they fail for want of bytes; and with a text that is not UTF-8 they fail as
such. -/
structure CreationLayout (protocol : Protocol) (openings : List (List UInt8))
    (leadWidth tailWidth accounts : Nat)
    (reports : Context → TokenMetadata → List UInt8 → List UInt8 → Event → Prop) : Prop where
  written : ∀ opening ∈ openings, ∀ (context : Context) (metadata : TokenMetadata)
    (lead tail rest : List UInt8), metadata.Fits → lead.length = leadWidth →
    tail.length = tailWidth → accounts ≤ context.accounts.length →
    context.located.data = opening ++ lead ++ metadata.write ++ tail ++ rest →
    ∃ event, protocol.decode context = .ok (some event) ∧ reports context metadata tail rest event
  truncated : ∀ opening ∈ openings, ∀ (context : Context) (metadata : TokenMetadata)
    (lead tail : List UInt8) (k : Nat), metadata.Fits → lead.length = leadWidth →
    tail.length = tailWidth → k < (lead ++ metadata.write ++ tail).length →
    context.located.data = opening ++ (lead ++ metadata.write ++ tail).take k →
    ∃ needed left, protocol.decode context = .error (.outOfBounds needed left)
  notUtf8 : ∀ opening ∈ openings, ∀ (context : Context) (lead name symbol uri rest : List UInt8),
    lead.length = leadWidth → name.length < 2 ^ 32 → symbol.length < 2 ^ 32 →
    uri.length < 2 ^ 32 → (utf8? name = none ∨ utf8? symbol = none ∨ utf8? uri = none) →
    context.located.data =
      opening ++ lead ++ counted name ++ counted symbol ++ counted uri ++ rest →
    protocol.decode context = .error .invalidUtf8

/-! ### Reading the texts -/

section Texts

variable {β : Type} {metadata : TokenMetadata} (fits : metadata.Fits)
  {finish : String → String → String → Read β}
include fits

theorem texts_takes_of_pure {result : β}
    (finished : finish metadata.name metadata.symbol metadata.uri = Pure.pure result) :
    (string >>= fun name => string >>= fun symbol => string >>= fun uri =>
      finish name symbol uri).Takes metadata.write result :=
  (string_takes _ fits.1).bind <| (string_takes _ fits.2.1).bind <|
    (string_takes _ fits.2.2).bind_of_pure finished

theorem texts_shortOn {later : List UInt8}
    (finished : (finish metadata.name metadata.symbol metadata.uri).ShortOn later) :
    (string >>= fun name => string >>= fun symbol => string >>= fun uri =>
      finish name symbol uri).ShortOn (metadata.write ++ later) := by
  rw [write, List.append_assoc, List.append_assoc]
  exact ShortOn.bind (string_takes _ fits.1) <| ShortOn.bind (string_takes _ fits.2.1) <|
    ShortOn.bind (string_takes _ fits.2.2) finished

theorem texts_shortOn_any :
    (string >>= fun name => string >>= fun symbol => string >>= fun uri =>
      finish name symbol uri).ShortOn metadata.write :=
  ShortOn.bind (string_takes _ fits.1) <| ShortOn.bind (string_takes _ fits.2.1) <|
    (string_takes _ fits.2.2).short.bind_left _

end Texts

theorem texts_of_invalid {β : Type} {name symbol uri : List UInt8} (nameFits : name.length < 2 ^ 32)
    (symbolFits : symbol.length < 2 ^ 32) (uriFits : uri.length < 2 ^ 32)
    (invalid : utf8? name = none ∨ utf8? symbol = none ∨ utf8? uri = none)
    (finish : String → String → String → Read β) (rest : List UInt8) (position : Nat) :
    ∃ next, (string >>= fun name => string >>= fun symbol => string >>= fun uri =>
      finish name symbol uri)
        ⟨counted name ++ (counted symbol ++ (counted uri ++ rest)), position⟩ =
        .error .invalidUtf8 next := by
  -- the first string that is not UTF-8 fails; those before it read back
  cases nameText : utf8? name with
  | none =>
    obtain ⟨next, failed⟩ := string_of_invalid nameFits nameText _ position
    exact ⟨next, bind_of_error failed⟩
  | some nameRead =>
    rw [(string_takes_of_valid nameFits nameText).bind_apply]
    cases symbolText : utf8? symbol with
    | none =>
      obtain ⟨next, failed⟩ := string_of_invalid symbolFits symbolText _ _
      exact ⟨next, bind_of_error failed⟩
    | some symbolRead =>
      rw [(string_takes_of_valid symbolFits symbolText).bind_apply]
      have uriText : utf8? uri = none := by simpa [nameText, symbolText] using invalid
      obtain ⟨next, failed⟩ := string_of_invalid uriFits uriText _ _
      exact ⟨next, bind_of_error failed⟩

/-! ### From the route to the protocol -/

theorem selected_of_opened {protocol : Protocol} {openings : List (List UInt8)} {route : Route}
    (selects : ∀ opening ∈ openings, ∀ data,
      protocol.select? (opening ++ data) = some (route, opening.length))
    {opening : List UInt8} (member : opening ∈ openings) {context : Context}
    {payload : List UInt8} (opened : context.located.data = opening ++ payload) :
    protocol.select? context.located.data = some (route, opening.length) ∧
      context.located.data.drop opening.length = payload := by
  rw [opened]
  exact ⟨selects opening member payload, List.drop_left⟩

theorem CreationLayout.of_route {protocol : Protocol} {openings : List (List UInt8)}
    {leadWidth tailWidth accounts : Nat}
    {reports : Context → TokenMetadata → List UInt8 → List UInt8 → Event → Prop} {route : Route}
    (selects : ∀ opening ∈ openings, ∀ data,
      protocol.select? (opening ++ data) = some (route, opening.length))
    (written : ∀ (context : Context) (metadata : TokenMetadata) (lead tail rest : List UInt8),
      metadata.Fits → lead.length = leadWidth → tail.length = tailWidth →
      accounts ≤ context.accounts.length → ∃ event,
        Cursor.run (route.decode context) (lead ++ (metadata.write ++ (tail ++ rest))) =
          .ok (some event) ∧ ∀ stamp, reports context metadata tail rest { event with stamp })
    (short : ∀ (context : Context) (metadata : TokenMetadata) (lead tail : List UInt8),
      metadata.Fits → lead.length = leadWidth → tail.length = tailWidth →
      (route.decode context).ShortOn (lead ++ (metadata.write ++ tail)))
    (invalid : ∀ (context : Context) (lead name symbol uri rest : List UInt8),
      lead.length = leadWidth → name.length < 2 ^ 32 → symbol.length < 2 ^ 32 →
      uri.length < 2 ^ 32 → (utf8? name = none ∨ utf8? symbol = none ∨ utf8? uri = none) →
      ∃ next, route.decode context
        ⟨lead ++ (counted name ++ (counted symbol ++ (counted uri ++ rest))), 0⟩ =
          .error .invalidUtf8 next) :
    CreationLayout protocol openings leadWidth tailWidth accounts reports where
  written opening member context metadata lead tail rest fits sized tailSized enough opened := by
    simp only [List.append_assoc] at opened
    obtain ⟨selected, payload⟩ := selected_of_opened selects member opened
    obtain ⟨event, ran, reported⟩ :=
      written context metadata lead tail rest fits sized tailSized enough
    rw [← payload] at ran
    exact ⟨_, Protocol.decode_of_run_some selected ran, reported _⟩
  truncated opening member context metadata lead tail k fits sized tailSized cut opened := by
    rw [List.append_assoc] at opened cut
    obtain ⟨selected, payload⟩ := selected_of_opened selects member opened
    obtain ⟨needed, left, next, failed⟩ := short context metadata lead tail fits sized tailSized k
      cut 0
    rw [← payload] at failed
    exact ⟨needed, left, Protocol.decode_of_run_error selected (Cursor.run_of_error failed)⟩
  notUtf8 opening member context lead name symbol uri rest sized nameFits symbolFits uriFits bad
      opened := by
    simp only [List.append_assoc] at opened
    obtain ⟨selected, payload⟩ := selected_of_opened selects member opened
    obtain ⟨next, failed⟩ := invalid context lead name symbol uri rest sized nameFits symbolFits
      uriFits bad
    rw [← payload] at failed
    exact Protocol.decode_of_run_error selected (Cursor.run_of_error failed)

theorem CreationLayout.of_takes {protocol : Protocol} {openings : List (List UInt8)}
    {leadWidth accounts : Nat} {reports : Context → TokenMetadata → Event → Prop} {route : Route}
    (selects : ∀ opening ∈ openings, ∀ data,
      protocol.select? (opening ++ data) = some (route, opening.length))
    (takes : ∀ (context : Context) (metadata : TokenMetadata) (lead : List UInt8),
      metadata.Fits → lead.length = leadWidth → accounts ≤ context.accounts.length → ∃ event,
        (route.decode context).Takes (lead ++ metadata.write) (some event) ∧
          ∀ stamp, reports context metadata { event with stamp })
    (short : ∀ (context : Context) (metadata : TokenMetadata) (lead : List UInt8),
      metadata.Fits → lead.length = leadWidth →
      (route.decode context).ShortOn (lead ++ metadata.write))
    (invalid : ∀ (context : Context) (lead name symbol uri rest : List UInt8),
      lead.length = leadWidth → name.length < 2 ^ 32 → symbol.length < 2 ^ 32 →
      uri.length < 2 ^ 32 → (utf8? name = none ∨ utf8? symbol = none ∨ utf8? uri = none) →
      ∃ next, route.decode context
        ⟨lead ++ (counted name ++ (counted symbol ++ (counted uri ++ rest))), 0⟩ =
          .error .invalidUtf8 next) :
    CreationLayout protocol openings leadWidth 0 accounts
      fun context metadata _ _ event => reports context metadata event := by
  refine of_route selects (fun context metadata lead tail rest fits sized empty enough => ?_)
    (fun context metadata lead tail fits sized empty => ?_) invalid
  · obtain ⟨event, taken, reported⟩ := takes context metadata lead fits sized enough
    rw [List.eq_nil_of_length_eq_zero empty, List.nil_append, ← List.append_assoc]
    exact ⟨event, Cursor.run_of_ok (taken.returns rest 0), reported⟩
  · rw [List.eq_nil_of_length_eq_zero empty, List.append_nil]
    exact short context metadata lead fits sized

theorem CreationLayout.of_lead {α : Type} {protocol : Protocol} {openings : List (List UInt8)}
    {leadWidth accounts : Nat} {reports : Context → TokenMetadata → Event → Prop} {route : Route}
    (selects : ∀ opening ∈ openings, ∀ data,
      protocol.select? (opening ++ data) = some (route, opening.length))
    {lead : Read α}
    (leadTakes : ∀ front : List UInt8, front.length = leadWidth → ∃ value, lead.Takes front value)
    (shape : ∀ context, ∃ finish : String → String → String → Read (Option Event),
      route.decode context = (lead >>= fun _ => string >>= fun name => string >>= fun symbol =>
        string >>= fun uri => finish name symbol uri))
    (takes : ∀ (context : Context) (metadata : TokenMetadata) (lead : List UInt8),
      metadata.Fits → lead.length = leadWidth → accounts ≤ context.accounts.length → ∃ event,
        (route.decode context).Takes (lead ++ metadata.write) (some event) ∧
          ∀ stamp, reports context metadata { event with stamp }) :
    CreationLayout protocol openings leadWidth 0 accounts
      fun context metadata _ _ event => reports context metadata event := by
  refine of_takes selects takes (fun context metadata front fits sized => ?_)
    (fun context front name symbol uri rest sized nameFits symbolFits uriFits invalid => ?_)
  · obtain ⟨_, leadRead⟩ := leadTakes front sized
    obtain ⟨finish, decodes⟩ := shape context
    rw [decodes]
    exact ShortOn.bind leadRead (texts_shortOn_any fits)
  · obtain ⟨_, leadRead⟩ := leadTakes front sized
    obtain ⟨finish, decodes⟩ := shape context
    rw [decodes, leadRead.bind_apply]
    exact texts_of_invalid nameFits symbolFits uriFits invalid finish rest _

theorem nothing_takes (front : List UInt8) (empty : front.length = 0) :
    ∃ value, (Pure.pure () : Read Unit).Takes front value := by
  rw [List.eq_nil_of_length_eq_zero empty]
  exact ⟨(), Takes.pure ()⟩

end TokenMetadata

/-! ### Choosing the route -/

theorem Protocol.select?_of_opening {protocol : Protocol} (before : List Route) (route : Route)
    {after : List Route} (table : protocol.routes = before ++ route :: after)
    (sized : ∀ opening ∈ route.prefixes, ∀ other ∈ route.prefixes, opening.length = other.length)
    (unmatched : ∀ opening ∈ route.prefixes, ∀ earlier ∈ before, ∀ data,
      earlier.matchLength? (opening ++ data) = none) :
    ∀ opening ∈ route.prefixes, ∀ data,
      protocol.select? (opening ++ data) = some (route, opening.length) := by
  intro opening member data
  exact select?_eq_of_first before table
    (fun earlier ahead => unmatched opening member earlier ahead data)
    (Route.matchLength?_of_prefix (fun other listed => sized other listed opening member) member
      (List.prefix_append _ _))

/-! ### Keys in a payload -/

namespace Pubkey

theorem eq_of_bytes_eq {first second : Pubkey} (same : first.bytes = second.bytes) :
    first = second := by
  obtain ⟨bytes, sized⟩ := first
  obtain ⟨bytes', sized'⟩ := second
  cases same
  rfl

theorem eq_of_bytes_append {first second : Pubkey} {more more' : List UInt8}
    (same : first.bytes ++ more = second.bytes ++ more') : first = second ∧ more = more' := by
  obtain ⟨opening, following⟩ :=
    List.append_inj same (first.size_eq.trans second.size_eq.symm)
  exact ⟨eq_of_bytes_eq opening, following⟩

theorem eq_of_three {first second third first' second' third' : Pubkey}
    (same : first.bytes ++ second.bytes ++ third.bytes =
      first'.bytes ++ second'.bytes ++ third'.bytes) :
    first = first' ∧ second = second' ∧ third = third' := by
  rw [List.append_assoc, List.append_assoc] at same
  obtain ⟨equalFirst, following⟩ := eq_of_bytes_append same
  obtain ⟨equalSecond, last⟩ := eq_of_bytes_append following
  exact ⟨equalFirst, equalSecond, eq_of_bytes_eq last⟩

theorem exists_bytes_append {bytes : List UInt8} (long : 32 ≤ bytes.length) :
    ∃ key : Pubkey, ∃ more, bytes = key.bytes ++ more :=
  ⟨⟨bytes.take 32, List.length_take_of_le long⟩, bytes.drop 32,
    (List.take_append_drop 32 bytes).symm⟩

theorem exists_three {bytes : List UInt8} (sized : bytes.length = 96) :
    ∃ first second third : Pubkey, bytes = first.bytes ++ second.bytes ++ third.bytes := by
  obtain ⟨first, more, rfl⟩ := exists_bytes_append (show 32 ≤ bytes.length by omega)
  have rest : more.length = 64 := by
    rw [List.length_append, first.size_eq] at sized
    omega
  obtain ⟨second, third, rfl⟩ := exists_bytes_append (show 32 ≤ more.length by omega)
  have last : third.length = 32 := by
    rw [List.length_append, second.size_eq] at rest
    omega
  exact ⟨first, second, ⟨third, last⟩, by rw [List.append_assoc]⟩

end Pubkey

/-! ### The decoders -/

section Decoders

open TokenMetadata

variable {metadata : TokenMetadata}

namespace Pumpfun

theorem creator_of_key {β : Type} (user key : Pubkey) (more : List UInt8) (position : Nat)
    (finish : Pubkey → Read β) :
    (left >>= fun count => if 32 ≤ count then pubkey >>= finish else pure user >>= finish)
      ⟨key.bytes ++ more, position⟩ = finish key ⟨more, position + 32⟩ := by
  have long : 32 ≤ (⟨key.bytes ++ more, position⟩ : Cursor).remaining := by
    simp [remaining, key.size_eq]
  rw [bind_of_ok (left_apply _), if_pos long, bind_of_ok (pubkey_append key)]

theorem creator_of_short {β : Type} (user : Pubkey) {rest : List UInt8} (short : rest.length < 32)
    (position : Nat) (finish : Pubkey → Read β) :
    (left >>= fun count => if 32 ≤ count then pubkey >>= finish else pure user >>= finish)
      ⟨rest, position⟩ = finish user ⟨rest, position⟩ := by
  rw [bind_of_ok (left_apply _), if_neg (by simpa [remaining] using short)]
  rfl

theorem decodeCreate_written (context : Context) (fits : metadata.Fits) (mint curve user : Pubkey)
    (rest : List UInt8) : ∃ event,
      Cursor.run (decodeCreate context)
        (metadata.write ++ (mint.bytes ++ curve.bytes ++ user.bytes ++ rest)) = .ok (some event) ∧
      ∃ creator, (∀ stamp, metadata.Announced { event with stamp } mint Programs.wrappedSol user
          creator) ∧ event.bondingCurve = some curve ∧ (rest.length < 32 → creator = user) ∧
        ∀ key more, rest = key.bytes ++ more → creator = key := by
  -- the texts and the three keys read back; the creator depends on how many bytes follow them
  by_cases long : 32 ≤ rest.length
  · obtain ⟨key, more, rfl⟩ := Pubkey.exists_bytes_append long
    refine ⟨?event, ?ran, key, ?reports⟩
    case ran =>
      apply Cursor.run_of_ok
      unfold decodeCreate
      simp only [write, List.append_assoc, Cursor.ofBytes]
      rw [(string_takes _ fits.1).bind_apply, (string_takes _ fits.2.1).bind_apply,
        (string_takes _ fits.2.2).bind_apply, (pubkey_takes mint).bind_apply,
        (pubkey_takes curve).bind_apply, (pubkey_takes user).bind_apply, creator_of_key]
      rfl
    case reports =>
      refine ⟨fun _ => ⟨rfl, rfl, rfl, rfl, rfl, rfl, rfl, rfl⟩, rfl, fun short => ?_,
        fun other more' same => (Pubkey.eq_of_bytes_append same).1⟩
      rw [List.length_append, key.size_eq] at short
      omega
  · refine ⟨?shortEvent, ?shortRan, user, ?shortReports⟩
    case shortRan =>
      apply Cursor.run_of_ok
      unfold decodeCreate
      simp only [write, List.append_assoc, Cursor.ofBytes]
      rw [(string_takes _ fits.1).bind_apply, (string_takes _ fits.2.1).bind_apply,
        (string_takes _ fits.2.2).bind_apply, (pubkey_takes mint).bind_apply,
        (pubkey_takes curve).bind_apply, (pubkey_takes user).bind_apply,
        creator_of_short user (Nat.lt_of_not_le long)]
      rfl
    case shortReports =>
      refine ⟨fun _ => ⟨rfl, rfl, rfl, rfl, rfl, rfl, rfl, rfl⟩, rfl, fun _ => rfl,
        fun key more same => absurd long ?_⟩
      rw [same, List.length_append, key.size_eq]
      omega

theorem decodeCreate_shortOn (context : Context) (fits : metadata.Fits) (mint curve user : Pubkey) :
    (decodeCreate context).ShortOn
      (metadata.write ++ (mint.bytes ++ curve.bytes ++ user.bytes)) := by
  unfold decodeCreate
  rw [List.append_assoc]
  exact texts_shortOn fits <| ShortOn.bind (pubkey_takes mint) <|
    ShortOn.bind (pubkey_takes curve) <| (pubkey_takes user).short.bind_left _

theorem select?_createEvent : ∀ opening ∈ [createEvent], ∀ data,
    Protocol.pumpfun.select? (opening ++ data) =
      some (⟨"CreateEvent", [createEvent], decodeCreate⟩, opening.length) :=
  Protocol.select?_of_opening [⟨"TradeEvent", [tradeEvent], decodeTrade⟩]
    ⟨"CreateEvent", [createEvent], decodeCreate⟩ rfl (by decide)
    (fun opening member earlier ahead data => by
      rw [List.mem_singleton.mp member, List.mem_singleton.mp ahead]
      rfl)

theorem createLayout : CreationLayout .pumpfun [createEvent] 0 96 0
    fun _ metadata tail rest event => ∀ mint curve user : Pubkey,
      tail = mint.bytes ++ curve.bytes ++ user.bytes → ∃ creator,
        metadata.Announced event mint Programs.wrappedSol user creator ∧
        event.bondingCurve = some curve ∧ (rest.length < 32 → creator = user) ∧
        ∀ key more, rest = key.bytes ++ more → creator = key := by
  refine CreationLayout.of_route select?_createEvent
    (fun context metadata lead tail rest fits sized tailSized _ => ?_)
    (fun context metadata lead tail fits sized tailSized => ?_)
    (fun context lead name symbol uri rest sized nameFits symbolFits uriFits invalid => ?_)
  all_goals obtain rfl := List.eq_nil_of_length_eq_zero sized
  · obtain ⟨first, second, third, rfl⟩ := Pubkey.exists_three tailSized
    obtain ⟨event, ran, creator, announced, curve, fallback, named⟩ :=
      decodeCreate_written context fits first second third rest
    refine ⟨event, by simpa only [List.append_assoc, List.nil_append] using ran,
      fun stamp mint curve' user same => ?_⟩
    obtain ⟨rfl, rfl, rfl⟩ := Pubkey.eq_of_three same
    exact ⟨creator, announced stamp, curve, fallback, named⟩
  · obtain ⟨first, second, third, rfl⟩ := Pubkey.exists_three tailSized
    exact decodeCreate_shortOn context fits first second third
  · unfold decodeCreate
    exact texts_of_invalid nameFits symbolFits uriFits invalid _ rest 0

end Pumpfun

namespace Boopfun

theorem decodeCreate_takes (context : Context) (metadata : TokenMetadata) (lead : List UInt8)
    (fits : metadata.Fits) (sized : lead.length = 8) (enough : 4 ≤ context.accounts.length) :
    ∃ event, (decodeCreate context).Takes (lead ++ metadata.write) (some event) ∧ ∀ stamp,
      metadata.Announced { event with stamp } (context.accounts.getD 2 default) Programs.wrappedSol
        (context.accounts.getD 3 default) (context.accounts.getD 3 default) ∧
      event.bondingCurve = (context.view.findByPrefix (some Programs.boopfun) deployBondingCurve
        (some context.position.outer)).bind (·.accounts[2]?) := by
  unfold decodeCreate
  refine ⟨?event, (u64_takes sized).bind (texts_takes_of_pure fits ?finished), ?reports⟩
  case finished =>
    simp (disch := omega) only [Context.account_of_lt, Read.liftM_ok_bind]
    rfl
  case reports => exact fun _ => ⟨⟨rfl, rfl, rfl, rfl, rfl, rfl, rfl, rfl⟩, rfl⟩

theorem select?_createToken : ∀ opening ∈ [createToken], ∀ data,
    Protocol.boopfun.select? (opening ++ data) =
      some (⟨"create_token", [createToken], decodeCreate⟩, opening.length) :=
  Protocol.select?_of_opening [] ⟨"create_token", [createToken], decodeCreate⟩ rfl (by decide)
    fun _ _ _ ahead _ => absurd ahead List.not_mem_nil

end Boopfun

namespace MeteoraDbc

theorem decodeInitialize_takes (context : Context) (metadata : TokenMetadata) (lead : List UInt8)
    (fits : metadata.Fits) (sized : lead.length = 0) (enough : 6 ≤ context.accounts.length) :
    ∃ event, (decodeInitialize context).Takes (lead ++ metadata.write) (some event) ∧ ∀ stamp,
      metadata.Announced { event with stamp } (context.accounts.getD 3 default)
        (context.accounts.getD 4 default) (context.accounts.getD 2 default)
        (context.accounts.getD 2 default) ∧
      event.pool = some (context.accounts.getD 5 default) ∧
      event.bondingCurve = some (context.accounts.getD 5 default) := by
  obtain rfl := List.eq_nil_of_length_eq_zero sized
  unfold decodeInitialize
  refine ⟨?event, texts_takes_of_pure fits ?finished, ?reports⟩
  case finished =>
    simp (disch := omega) only [Context.account_of_lt, Read.liftM_ok_bind]
    rfl
  case reports => exact fun _ => ⟨⟨rfl, rfl, rfl, rfl, rfl, rfl, rfl, rfl⟩, rfl, rfl⟩

theorem select?_initialize : ∀ opening ∈ [initializeSpl, initializeToken2022], ∀ data,
    Protocol.meteoraDbc.select? (opening ++ data) = some (⟨"initialize_virtual_pool",
      [initializeSpl, initializeToken2022], decodeInitialize⟩, opening.length) :=
  Protocol.select?_of_opening [⟨"swap", [swap, swap2], decodeSwap⟩]
    ⟨"initialize_virtual_pool", [initializeSpl, initializeToken2022], decodeInitialize⟩
    rfl (by decide)
    fun opening member earlier ahead data => by
      simp only [List.mem_cons, List.not_mem_nil, or_false] at member ahead
      rcases member with rfl | rfl <;> rcases ahead with rfl <;> rfl

end MeteoraDbc

namespace Moonit

theorem decodeCreate_takes (context : Context) (metadata : TokenMetadata) (lead : List UInt8)
    (fits : metadata.Fits) (sized : lead.length = 0) (enough : 4 ≤ context.accounts.length) :
    ∃ event, (decodeCreate context).Takes (lead ++ metadata.write) (some event) ∧ ∀ stamp,
      metadata.Announced { event with stamp } (context.accounts.getD 3 default)
        Programs.wrappedSol (context.accounts.getD 0 default) (context.accounts.getD 0 default) ∧
      event.bondingCurve = some (context.accounts.getD 2 default) := by
  obtain rfl := List.eq_nil_of_length_eq_zero sized
  unfold decodeCreate
  refine ⟨?event, texts_takes_of_pure fits ?finished, ?reports⟩
  case finished =>
    simp (disch := omega) only [Context.account_of_lt, Read.liftM_ok_bind]
    rfl
  case reports => exact fun _ => ⟨⟨rfl, rfl, rfl, rfl, rfl, rfl, rfl, rfl⟩, rfl⟩

theorem select?_tokenMint : ∀ opening ∈ [tokenMint], ∀ data,
    Protocol.moonit.select? (opening ++ data) =
      some (⟨"token_mint", [tokenMint], decodeCreate⟩, opening.length) :=
  Protocol.select?_of_opening [⟨"buy", [buy], decodeBuy⟩, ⟨"sell", [sell], decodeSell⟩]
    ⟨"token_mint", [tokenMint], decodeCreate⟩ rfl (by decide)
    fun opening member earlier ahead data => by
      simp only [List.mem_cons, List.not_mem_nil, or_false] at member ahead
      rcases member with rfl
      rcases ahead with rfl | rfl <;> rfl

end Moonit

namespace RaydiumLaunchpad

theorem decodeInitialize_takes (context : Context) (metadata : TokenMetadata) (lead : List UInt8)
    (fits : metadata.Fits) (sized : lead.length = 1) (enough : 8 ≤ context.accounts.length) :
    ∃ event, (decodeInitialize context).Takes (lead ++ metadata.write) (some event) ∧ ∀ stamp,
      metadata.Announced { event with stamp } (context.accounts.getD 6 default)
        (context.accounts.getD 7 default) (context.accounts.getD 1 default)
        (context.accounts.getD 1 default) ∧
      event.pool = some (context.accounts.getD 5 default) ∧
      event.bondingCurve = some (context.accounts.getD 5 default) := by
  unfold decodeInitialize
  refine ⟨?event, (u8_takes sized).bind (texts_takes_of_pure fits ?finished), ?reports⟩
  case finished =>
    simp (disch := omega) only [Context.account_of_lt, Read.liftM_ok_bind]
    rfl
  case reports => exact fun _ => ⟨⟨rfl, rfl, rfl, rfl, rfl, rfl, rfl, rfl⟩, rfl, rfl⟩

theorem select?_initialize :
    ∀ opening ∈ [initializePool, initializePoolV2, initializePoolToken2022], ∀ data,
      Protocol.raydiumLaunchpad.select? (opening ++ data) = some (⟨"initialize",
        [initializePool, initializePoolV2, initializePoolToken2022], decodeInitialize⟩,
        opening.length) :=
  Protocol.select?_of_opening
    [⟨"trade", [buyExactIn, buyExactOut, sellExactIn, sellExactOut], decodeTrade⟩]
    ⟨"initialize", [initializePool, initializePoolV2, initializePoolToken2022], decodeInitialize⟩
    rfl (by decide) fun opening member earlier ahead data => by
      simp only [List.mem_cons, List.not_mem_nil, or_false] at member ahead
      rcases member with rfl | rfl | rfl <;> rcases ahead with rfl <;> rfl

end RaydiumLaunchpad

namespace Sugar

theorem decodeCreate_takes (context : Context) (metadata : TokenMetadata) (lead : List UInt8)
    (fits : metadata.Fits) (sized : lead.length = 0) (enough : 3 ≤ context.accounts.length) :
    ∃ event, (decodeCreate context).Takes (lead ++ metadata.write) (some event) ∧ ∀ stamp,
      metadata.Announced { event with stamp } (context.accounts.getD 1 default)
        Programs.wrappedSol (context.accounts.getD 0 default) (context.accounts.getD 0 default) ∧
      event.bondingCurve = some (context.accounts.getD 2 default) := by
  obtain rfl := List.eq_nil_of_length_eq_zero sized
  unfold decodeCreate
  refine ⟨?event, texts_takes_of_pure fits ?finished, ?reports⟩
  case finished =>
    simp (disch := omega) only [Context.account_of_lt, Read.liftM_ok_bind]
    rfl
  case reports => exact fun _ => ⟨⟨rfl, rfl, rfl, rfl, rfl, rfl, rfl, rfl⟩, rfl⟩

theorem select?_create : ∀ opening ∈ [create], ∀ data,
    Protocol.sugar.select? (opening ++ data) =
      some (⟨"create", [create], decodeCreate⟩, opening.length) :=
  Protocol.select?_of_opening [⟨"buy", [buyExactIn, buyExactOut], decodeBuy⟩,
      ⟨"sell", [sellExactIn, sellExactOut], decodeSell⟩]
    ⟨"create", [create], decodeCreate⟩ rfl (by decide)
    fun opening member earlier ahead data => by
      simp only [List.mem_cons, List.not_mem_nil, or_false] at member ahead
      rcases member with rfl
      rcases ahead with rfl | rfl <;> rfl

end Sugar

end Decoders

namespace TokenMetadata

/-- Every decoder of a token's creation reads back the texts written for it, with the accounts of
its layout; fails for want of bytes when they are cut short; and fails as such on a text that is
not UTF-8. The pump.fun creation event names its creator in the 32 bytes after the user when they
are there, and otherwise the user stands for it; boop.fun's `create_token` opens with its salt and
names the curve that the deployment in the same outer instruction names; the Meteora curve's
`initialize_virtual_pool` is read alike under both its discriminators; the three initializations
of the Raydium launchpad open with the token's decimals. -/
theorem decode_creations :
    CreationLayout .pumpfun [Pumpfun.createEvent] 0 96 0
      (fun _ metadata tail rest event => ∀ mint curve user : Pubkey,
        tail = mint.bytes ++ curve.bytes ++ user.bytes → ∃ creator,
          metadata.Announced event mint Programs.wrappedSol user creator ∧
          event.bondingCurve = some curve ∧ (rest.length < 32 → creator = user) ∧
          ∀ key more, rest = key.bytes ++ more → creator = key) ∧
    CreationLayout .boopfun [Boopfun.createToken] 8 0 4
      (fun context metadata _ _ event =>
        metadata.Announced event (context.accounts.getD 2 default) Programs.wrappedSol
          (context.accounts.getD 3 default) (context.accounts.getD 3 default) ∧
        event.bondingCurve = (context.view.findByPrefix (some Programs.boopfun)
          Boopfun.deployBondingCurve (some context.position.outer)).bind (·.accounts[2]?)) ∧
    CreationLayout .meteoraDbc [MeteoraDbc.initializeSpl, MeteoraDbc.initializeToken2022] 0 0 6
      (fun context metadata _ _ event =>
        metadata.Announced event (context.accounts.getD 3 default)
          (context.accounts.getD 4 default) (context.accounts.getD 2 default)
          (context.accounts.getD 2 default) ∧
        event.pool = some (context.accounts.getD 5 default) ∧
        event.bondingCurve = some (context.accounts.getD 5 default)) ∧
    CreationLayout .moonit [Moonit.tokenMint] 0 0 4
      (fun context metadata _ _ event =>
        metadata.Announced event (context.accounts.getD 3 default) Programs.wrappedSol
          (context.accounts.getD 0 default) (context.accounts.getD 0 default) ∧
        event.bondingCurve = some (context.accounts.getD 2 default)) ∧
    CreationLayout .raydiumLaunchpad [RaydiumLaunchpad.initializePool,
        RaydiumLaunchpad.initializePoolV2, RaydiumLaunchpad.initializePoolToken2022] 1 0 8
      (fun context metadata _ _ event =>
        metadata.Announced event (context.accounts.getD 6 default)
          (context.accounts.getD 7 default) (context.accounts.getD 1 default)
          (context.accounts.getD 1 default) ∧
        event.pool = some (context.accounts.getD 5 default) ∧
        event.bondingCurve = some (context.accounts.getD 5 default)) ∧
    CreationLayout .sugar [Sugar.create] 0 0 3
      (fun context metadata _ _ event =>
        metadata.Announced event (context.accounts.getD 1 default) Programs.wrappedSol
          (context.accounts.getD 0 default) (context.accounts.getD 0 default) ∧
        event.bondingCurve = some (context.accounts.getD 2 default)) :=
  ⟨Pumpfun.createLayout,
    .of_lead Boopfun.select?_createToken (fun _ sized => ⟨_, u64_takes sized⟩) (fun _ => ⟨_, rfl⟩)
      Boopfun.decodeCreate_takes,
    .of_lead MeteoraDbc.select?_initialize nothing_takes (fun _ => ⟨_, rfl⟩)
      MeteoraDbc.decodeInitialize_takes,
    .of_lead Moonit.select?_tokenMint nothing_takes (fun _ => ⟨_, rfl⟩) Moonit.decodeCreate_takes,
    .of_lead RaydiumLaunchpad.select?_initialize (fun _ sized => ⟨_, u8_takes sized⟩)
      (fun _ => ⟨_, rfl⟩) RaydiumLaunchpad.decodeInitialize_takes,
    .of_lead Sugar.select?_create nothing_takes (fun _ => ⟨_, rfl⟩) Sugar.decodeCreate_takes⟩

/-- A Sugar creation of `Doge` with three accounts listed reads back with its name and with the
creator at account 0; and a pump.fun creation event with nothing after its discriminator fails
for want of bytes. -/
theorem decode_sugar_creation_and_cut_event :
    (∃ event, Protocol.sugar.decode ⟨.sugar, ⟨⟨Programs.sugar, [Pubkey.zero, Programs.wrappedSol,
        Pubkey.zero], Sugar.create ++ (TokenMetadata.mk "Doge" "DOGE" "").write⟩, ⟨0, none⟩⟩,
        default, {}⟩ = .ok (some event) ∧
      event.name = some "Doge" ∧ event.creator = some Pubkey.zero) ∧
    ∃ needed left, Protocol.pumpfun.decode ⟨.pumpfun, ⟨⟨Programs.pumpfun, [],
      Pumpfun.createEvent⟩, ⟨0, none⟩⟩, default, {}⟩ = .error (.outOfBounds needed left) := by
  have fits : (TokenMetadata.mk "Doge" "DOGE" "").Fits := ⟨by decide, by decide, by decide⟩
  constructor
  · obtain ⟨event, decoded, announced, _⟩ := decode_creations.2.2.2.2.2.written Sugar.create
      List.mem_cons_self ⟨.sugar, ⟨⟨Programs.sugar, [Pubkey.zero, Programs.wrappedSol, Pubkey.zero],
        Sugar.create ++ (TokenMetadata.mk "Doge" "DOGE" "").write⟩, ⟨0, none⟩⟩, default, {}⟩ _
      [] [] [] fits rfl rfl (by decide) (by simp [Located.data])
    exact ⟨event, decoded, announced.name, announced.creator⟩
  · exact decode_creations.1.truncated Pumpfun.createEvent List.mem_cons_self _ _ []
      (List.replicate 96 0) 0 fits rfl rfl (by simp) (by simp [Located.data])

end TokenMetadata

end MemeEvents
