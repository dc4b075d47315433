import VoucherProxy.Error
import VoucherProxy.Foundation.Checks
import VoucherProxy.Foundation.Codec
import VoucherProxy.Foundation.Text

namespace VoucherProxy

/-! The voucher-creation body as a closed set of fields: how it is read, held
to the caller's ceilings, and written again for the controller. -/

/-- Upper bound the Integration API itself enforces on `timeLimitMinutes`. -/
def unifiMaxTimeLimitMinutes : UInt64 := 1000000

structure CreateVoucherRequest where
  name : String
  count : UInt32
  timeLimitMinutes : UInt64
  authorizedGuestLimit : UInt32
  dataUsageLimitMBytes : Option UInt64
  rxRateLimitKbps : Option UInt64
  txRateLimitKbps : Option UInt64
  deriving DecidableEq, Repr

/-- The ceilings that apply to one particular caller. -/
structure Ceilings where
  maxVouchers : UInt32
  maxValidityMinutes : UInt64
  deriving DecidableEq, Repr

namespace Codec

def optionU64 : Codec (Option UInt64) := u64.option (by intro value; simp [u64])

end Codec

namespace CreateVoucherRequest

def one : UInt32 := 1

inductive Field
  | name
  | count
  | timeLimitMinutes
  | authorizedGuestLimit
  | dataUsageLimitMBytes
  | rxRateLimitKbps
  | txRateLimitKbps
  deriving DecidableEq, Repr

namespace Field

def all : List Field :=
  [.name, .count, .timeLimitMinutes, .authorizedGuestLimit, .dataUsageLimitMBytes,
    .rxRateLimitKbps, .txRateLimitKbps]

def key : Field → String
  | .name => "name"
  | .count => "count"
  | .timeLimitMinutes => "timeLimitMinutes"
  | .authorizedGuestLimit => "authorizedGuestLimit"
  | .dataUsageLimitMBytes => "dataUsageLimitMBytes"
  | .rxRateLimitKbps => "rxRateLimitKbps"
  | .txRateLimitKbps => "txRateLimitKbps"

def ofKey (key : String) : Option Field := all.find? fun field => field.key == key

@[simp] theorem key_inj {left right : Field} : left.key = right.key ↔ left = right := by
  cases left <;> cases right <;> decide

theorem ofKey_eq_some {key : String} {field : Field} :
    ofKey key = some field ↔ field.key = key := by
  constructor
  · intro found
    simpa using List.find?_some found
  · rintro rfl
    cases field <;> decide

end Field

/-- The values met so far while the members of an object are visited. -/
structure Fields where
  name : Option String := none
  count : Option UInt32 := none
  timeLimitMinutes : Option UInt64 := none
  authorizedGuestLimit : Option UInt32 := none
  dataUsageLimitMBytes : Option (Option UInt64) := none
  rxRateLimitKbps : Option (Option UInt64) := none
  txRateLimitKbps : Option (Option UInt64) := none

def Fields.visit (fields : Fields) (member : String × Json) : Except DecodeError Fields :=
  match Field.ofKey member.1 with
  | none => .error (.unknownField member.1 (Field.all.map Field.key))
  | some .name =>
      (Codec.string.fill "name" fields.name member.2).map fun filled =>
        { fields with name := filled }
  | some .count =>
      (Codec.u32.fill "count" fields.count member.2).map fun filled =>
        { fields with count := filled }
  | some .timeLimitMinutes =>
      (Codec.u64.fill "timeLimitMinutes" fields.timeLimitMinutes member.2).map fun filled =>
        { fields with timeLimitMinutes := filled }
  | some .authorizedGuestLimit =>
      (Codec.u32.fill "authorizedGuestLimit" fields.authorizedGuestLimit member.2).map
        fun filled => { fields with authorizedGuestLimit := filled }
  | some .dataUsageLimitMBytes =>
      (Codec.optionU64.fill "dataUsageLimitMBytes" fields.dataUsageLimitMBytes member.2).map
        fun filled => { fields with dataUsageLimitMBytes := filled }
  | some .rxRateLimitKbps =>
      (Codec.optionU64.fill "rxRateLimitKbps" fields.rxRateLimitKbps member.2).map
        fun filled => { fields with rxRateLimitKbps := filled }
  | some .txRateLimitKbps =>
      (Codec.optionU64.fill "txRateLimitKbps" fields.txRateLimitKbps member.2).map
        fun filled => { fields with txRateLimitKbps := filled }

/-- What the absent fields default to; a missing `Option` is `none`. -/
def Fields.finish (fields : Fields) : Except DecodeError CreateVoucherRequest :=
  match fields.name with
  | none => .error (.missingField "name")
  | some name =>
      match fields.timeLimitMinutes with
      | none => .error (.missingField "timeLimitMinutes")
      | some timeLimitMinutes => .ok
          { name, timeLimitMinutes
            count := fields.count.getD one
            authorizedGuestLimit := fields.authorizedGuestLimit.getD one
            dataUsageLimitMBytes := fields.dataUsageLimitMBytes.getD none
            rxRateLimitKbps := fields.rxRateLimitKbps.getD none
            txRateLimitKbps := fields.txRateLimitKbps.getD none }

def fromMembers (members : List (String × Json)) : Except DecodeError CreateVoucherRequest := do
  let fields ← members.foldlM Fields.visit {}
  fields.finish

/-- The item of a sequence at a position, or what stands for its absence. -/
def item {α : Type} (codec : Codec α) (items : List Json) (position : Nat)
    (absent : Except DecodeError α) : Except DecodeError α :=
  match items[position]? with
  | some found => codec.decode found
  | none => absent

def fromItems (items : List Json) : Except DecodeError CreateVoucherRequest := do
  let short := fun position =>
    DecodeError.invalidLength position "struct CreateVoucherRequest with 7 elements"
  let name ← item Codec.string items 0 (.error (short 0))
  let count ← item Codec.u32 items 1 (.ok one)
  let timeLimitMinutes ← item Codec.u64 items 2 (.error (short 2))
  let authorizedGuestLimit ← item Codec.u32 items 3 (.ok one)
  let dataUsageLimitMBytes ← item Codec.optionU64 items 4 (.error (short 4))
  let rxRateLimitKbps ← item Codec.optionU64 items 5 (.error (short 5))
  let txRateLimitKbps ← item Codec.optionU64 items 6 (.error (short 6))
  if 7 < items.length then
    throw (.invalidLength items.length "fewer elements in array")
  return { name, count, timeLimitMinutes, authorizedGuestLimit, dataUsageLimitMBytes,
           rxRateLimitKbps, txRateLimitKbps }

/-- A struct may be given as an object, or as a sequence of its fields. -/
def fromValue : Json → Except DecodeError CreateVoucherRequest
  | .object members => fromMembers members
  | .array items => fromItems items
  | found => .error (.invalidType found "struct CreateVoucherRequest")

def parse [SerdeJson] (body : Json) : Except ProxyError CreateVoucherRequest :=
  match fromValue body with
  | .ok request => .ok request
  | .error why =>
      .error (.badRequest s!"voucher request is not acceptable: {SerdeJson.errorText why}")

/-- Rejects anything past the caller's ceilings; nothing is clamped. -/
def enforce (request : CreateVoucherRequest) (ceilings : Ceilings) :
    Except ProxyError Unit := do
  if (Text.trim request.name).isEmpty then
    throw (.badRequest "voucher name must not be empty")
  if request.name.toList.length > 128 then
    throw (.badRequest "voucher name is too long")
  if request.count = 0 then
    throw (.badRequest "count must be at least 1")
  if request.count > ceilings.maxVouchers then
    throw (.forbidden s!"this token may create at most {ceilings.maxVouchers} voucher(s) per request (asked for {request.count})")
  if request.timeLimitMinutes = 0 then
    throw (.badRequest "timeLimitMinutes must be at least 1")
  let ceiling := min ceilings.maxValidityMinutes unifiMaxTimeLimitMinutes
  if request.timeLimitMinutes > ceiling then
    throw (.forbidden s!"this token may issue vouchers valid for at most {ceiling} minute(s) (asked for {request.timeLimitMinutes})")
  if request.authorizedGuestLimit = 0 ∨ request.authorizedGuestLimit > 10000 then
    throw (.badRequest "authorizedGuestLimit is out of range")

/-- What the member of a field is written as; `null` is not written at all. -/
def value (request : CreateVoucherRequest) : Field → Json
  | .name => Codec.string.encode request.name
  | .count => Codec.u32.encode request.count
  | .timeLimitMinutes => Codec.u64.encode request.timeLimitMinutes
  | .authorizedGuestLimit => Codec.u32.encode request.authorizedGuestLimit
  | .dataUsageLimitMBytes => Codec.optionU64.encode request.dataUsageLimitMBytes
  | .rxRateLimitKbps => Codec.optionU64.encode request.rxRateLimitKbps
  | .txRateLimitKbps => Codec.optionU64.encode request.txRateLimitKbps

/-- Serialisation walks the fields in order and skips absent options. -/
def writeMember (request : CreateVoucherRequest) (members : List (String × Json))
    (field : Field) : List (String × Json) :=
  if (request.value field).isNull then members
  else insertMember field.key (request.value field) members

def members (request : CreateVoucherRequest) : List (String × Json) :=
  Field.all.foldl request.writeMember []

/-- Encoding a request cannot fail: it holds nothing but strings and integers. -/
def toUpstreamBody (request : CreateVoucherRequest) : Except ProxyError Json :=
  .ok (.object request.members)

/-- A request within every ceiling passes, and no other. -/
theorem enforce_eq_ok {request : CreateVoucherRequest} {ceilings : Ceilings} :
    request.enforce ceilings = .ok () ↔
      (Text.trim request.name).isEmpty = false ∧ request.name.toList.length ≤ 128 ∧
      (request.count ≠ 0 ∧ request.count ≤ ceilings.maxVouchers) ∧
      (request.timeLimitMinutes ≠ 0 ∧
        request.timeLimitMinutes ≤ min ceilings.maxValidityMinutes unifiMaxTimeLimitMinutes) ∧
      request.authorizedGuestLimit ≠ 0 ∧ request.authorizedGuestLimit ≤ 10000 := by
  unfold enforce
  rw [check_eq_ok, check_eq_ok, check_eq_ok, check_eq_ok, check_eq_ok, check_eq_ok,
    lastCheck_eq_ok]
  simp only [not_or, not_lt, UInt32.not_lt, UInt64.not_lt, gt_iff_lt, Bool.not_eq_true, ne_eq,
    and_assoc]

/-! ## What is accepted -/

/-- The encoding of what a slot holds. -/
def Fields.slot (fields : Fields) : Field → Option Json
  | .name => fields.name.map Codec.string.encode
  | .count => fields.count.map Codec.u32.encode
  | .timeLimitMinutes => fields.timeLimitMinutes.map Codec.u64.encode
  | .authorizedGuestLimit => fields.authorizedGuestLimit.map Codec.u32.encode
  | .dataUsageLimitMBytes => fields.dataUsageLimitMBytes.map Codec.optionU64.encode
  | .rxRateLimitKbps => fields.rxRateLimitKbps.map Codec.optionU64.encode
  | .txRateLimitKbps => fields.txRateLimitKbps.map Codec.optionU64.encode

theorem map_encode_inj {α : Type} (codec : Codec α) {left right : Option α} :
    left.map codec.encode = right.map codec.encode ↔ left = right :=
  (Option.map_injective codec.encode_injective).eq_iff

theorem Fields.ext_slot {left right : Fields}
    (same : ∀ field, left.slot field = right.slot field) : left = right := by
  rcases left with ⟨name, count, time, guests, data, rx, tx⟩
  rcases right with ⟨name', count', time', guests', data', rx', tx'⟩
  have first := same .name
  have second := same .count
  have third := same .timeLimitMinutes
  have fourth := same .authorizedGuestLimit
  have fifth := same .dataUsageLimitMBytes
  have sixth := same .rxRateLimitKbps
  have seventh := same .txRateLimitKbps
  simp only [slot, map_encode_inj] at first second third fourth fifth sixth seventh
  subst first second third fourth fifth sixth seventh
  rfl

/-- A member is accepted exactly when it names a field not yet met and holds an
encoding, which then fills that field's slot and no other. -/
theorem Fields.visit_eq_ok {fields visited : Fields} {member : String × Json} :
    fields.visit member = .ok visited ↔
      ∃ field : Field, member.1 = field.key ∧ fields.slot field = none ∧
        ∀ other, visited.slot other =
          if other = field then some member.2 else fields.slot other := by
  constructor
  · intro accepted
    unfold visit at accepted
    split at accepted
    · cases accepted
    all_goals
      next known =>
        simp only [map_eq_ok, Codec.fill_eq_ok] at accepted
        rcases accepted with ⟨filled, ⟨empty, held⟩, rfl⟩
        refine ⟨_, (Field.ofKey_eq_some.mp known).symm, by simp [slot, empty], ?_⟩
        intro other
        cases other <;> simp [slot, held]
  · rintro ⟨field, key, empty, slots⟩
    have known : Field.ofKey member.1 = some field := Field.ofKey_eq_some.mpr key.symm
    have kept : ∀ other, other ≠ field → visited.slot other = fields.slot other := by
      intro other different
      simp [slots other, different]
    have held := slots field
    rw [if_pos rfl] at held
    unfold visit
    rw [known]
    cases field <;>
      simp only [slot, Option.map_eq_none_iff] at empty held ⊢ <;>
      refine map_eq_ok.mpr ⟨_, Codec.fill_eq_ok.mpr ⟨empty, held⟩, ?_⟩ <;>
      apply ext_slot <;>
      intro other <;>
      cases other <;> first | rfl | (rw [kept _ (by decide)]; rfl)

/-- A slot can be given whatever the same slot of another set of fields holds. -/
theorem Fields.exists_filled (fields source : Fields) (field : Field) :
    ∃ filled : Fields, ∀ other,
      filled.slot other = if other = field then source.slot field else fields.slot other := by
  cases field with
  | name => exact ⟨{ fields with name := source.name }, by intro other; cases other <;> rfl⟩
  | count => exact ⟨{ fields with count := source.count }, by intro other; cases other <;> rfl⟩
  | timeLimitMinutes =>
      exact ⟨{ fields with timeLimitMinutes := source.timeLimitMinutes },
        by intro other; cases other <;> rfl⟩
  | authorizedGuestLimit =>
      exact ⟨{ fields with authorizedGuestLimit := source.authorizedGuestLimit },
        by intro other; cases other <;> rfl⟩
  | dataUsageLimitMBytes =>
      exact ⟨{ fields with dataUsageLimitMBytes := source.dataUsageLimitMBytes },
        by intro other; cases other <;> rfl⟩
  | rxRateLimitKbps =>
      exact ⟨{ fields with rxRateLimitKbps := source.rxRateLimitKbps },
        by intro other; cases other <;> rfl⟩
  | txRateLimitKbps =>
      exact ⟨{ fields with txRateLimitKbps := source.txRateLimitKbps },
        by intro other; cases other <;> rfl⟩

/-- Visiting all members fills the slots with what the object holds under their
keys, provided that each key is known, met once, and not filled before. -/
theorem Fields.foldlM_visit_eq_ok {members : List (String × Json)} {fields target : Fields} :
    members.foldlM visit fields = .ok target ↔
      (members.map Prod.fst).Nodup ∧
      (∀ key ∈ members.map Prod.fst, ∃ field : Field, key = field.key ∧
        fields.slot field = none) ∧
      ∀ field : Field, target.slot field = (fields.slot field).or (members.lookup field.key) := by
  induction members generalizing fields with
  | nil =>
      simp only [List.foldlM_nil, Pure.pure, Except.pure, Except.ok.injEq, List.map_nil,
        List.nodup_nil, List.lookup_nil, Option.or_none, true_and]
      constructor
      · rintro rfl
        exact ⟨by simp, fun _ => rfl⟩
      · rintro ⟨-, same⟩
        exact Fields.ext_slot fun field => (same field).symm
  | cons member members induction =>
      rcases member with ⟨key, json⟩
      simp only [List.foldlM_cons, List.map_cons, List.nodup_cons, List.mem_cons,
        forall_eq_or_imp, lookup_cons_ite]
      constructor
      · intro accepted
        cases first : fields.visit (key, json) with
        | error why => simp [first, Bind.bind, Except.bind] at accepted
        | ok visited =>
            simp only [first, Bind.bind, Except.bind] at accepted
            rcases visit_eq_ok.mp first with ⟨field, isKey, empty, slots⟩
            rcases induction.mp accepted with ⟨distinct, known, filled⟩
            simp only at isKey slots
            subst isKey
            have emptyBefore : ∀ other, visited.slot other = none →
                other ≠ field ∧ fields.slot other = none := by
              intro other emptyAfter
              rw [slots other] at emptyAfter
              by_cases same : other = field
              · simp [same] at emptyAfter
              · exact ⟨same, by simpa [same] using emptyAfter⟩
            refine ⟨⟨?_, distinct⟩, ⟨⟨field, rfl, empty⟩, ?_⟩, ?_⟩
            · intro repeated
              rcases known _ repeated with ⟨other, sameKey, emptyAfter⟩
              exact (emptyBefore other emptyAfter).1 (Field.key_inj.mp sameKey).symm
            · intro later present
              rcases known later present with ⟨other, isKey, emptyAfter⟩
              exact ⟨other, isKey, (emptyBefore other emptyAfter).2⟩
            · intro other
              rw [filled other, slots other]
              by_cases same : other = field
              · simp [same, empty]
              · simp [same]
      · rintro ⟨⟨fresh, distinct⟩, ⟨⟨field, rfl, empty⟩, known⟩, filled⟩
        rcases fields.exists_filled target field with ⟨visited, slots⟩
        have held : target.slot field = some json := by
          simpa [empty] using filled field
        have first : fields.visit (field.key, json) = .ok visited := by
          refine visit_eq_ok.mpr ⟨field, rfl, empty, ?_⟩
          rw [← held]
          exact slots
        simp only [first, Bind.bind, Except.bind]
        refine induction.mpr ⟨distinct, ?_, ?_⟩
        · intro later present
          rcases known later present with ⟨other, isKey, emptyBefore⟩
          refine ⟨other, isKey, ?_⟩
          have different : other ≠ field := by
            rintro rfl
            exact fresh (isKey ▸ present)
          rw [slots other, if_neg different, emptyBefore]
        · intro other
          rw [slots other]
          by_cases same : other = field
          · simp [same, held]
          · simpa [same] using filled other

/-- What an absent member stands for; `none` where it must be given. -/
def Field.default : Field → Option Json
  | .name => none
  | .count => some (Codec.u32.encode one)
  | .timeLimitMinutes => none
  | .authorizedGuestLimit => some (Codec.u32.encode one)
  | .dataUsageLimitMBytes => some .null
  | .rxRateLimitKbps => some .null
  | .txRateLimitKbps => some .null

/-- The members say what the request says: known keys, each at most once, and
under every field's key its value, or nothing where that is the default. -/
structure Encodes (members : List (String × Json)) (request : CreateVoucherRequest) :
    Prop where
  distinct : (members.map Prod.fst).Nodup
  known : ∀ key ∈ members.map Prod.fst, ∃ field : Field, key = field.key
  values : ∀ field : Field,
    (members.lookup field.key).or field.default = some (request.value field)

theorem map_or_default {α : Type} (codec : Codec α) (slot : Option α) (absent value : α) :
    (slot.map codec.encode).or (some (codec.encode absent)) = some (codec.encode value) ↔
      slot.getD absent = value := by
  cases slot <;> simp

theorem map_or_none {α : Type} (codec : Codec α) (slot : Option α) (value : α) :
    (slot.map codec.encode).or none = some (codec.encode value) ↔ slot = some value := by
  cases slot <;> simp

theorem Fields.finish_eq_ok {fields : Fields} {request : CreateVoucherRequest} :
    fields.finish = .ok request ↔
      ∀ field : Field, (fields.slot field).or field.default = some (request.value field) := by
  have absent : Json.null = Codec.optionU64.encode none := rfl
  constructor
  · intro finished field
    unfold finish at finished
    split at finished
    · cases finished
    · next name nameMet =>
        split at finished
        · cases finished
        · next minutes minutesMet =>
            cases finished
            cases field <;>
              simp only [slot, Field.default, value, absent, map_or_default, map_or_none,
                nameMet, minutesMet]
  · intro slots
    have name := slots .name
    have minutes := slots .timeLimitMinutes
    have count := slots .count
    have guests := slots .authorizedGuestLimit
    have data := slots .dataUsageLimitMBytes
    have rx := slots .rxRateLimitKbps
    have tx := slots .txRateLimitKbps
    simp only [slot, Field.default, value, absent, map_or_default, map_or_none] at *
    simp [finish, name, minutes, count, guests, data, rx, tx]

theorem Encodes.eq_value {members : List (String × Json)} {request : CreateVoucherRequest}
    (encodes : Encodes members request) {field : Field} {json : Json}
    (found : members.lookup field.key = some json) : json = request.value field := by
  have held := encodes.values field
  rw [found, Option.some_or, Option.some.injEq] at held
  exact held

/-- The slots that visiting the members of an encoding fills. -/
def Encodes.fields (members : List (String × Json)) (request : CreateVoucherRequest) :
    Fields where
  name := (members.lookup Field.name.key).map fun _ => request.name
  count := (members.lookup Field.count.key).map fun _ => request.count
  timeLimitMinutes :=
    (members.lookup Field.timeLimitMinutes.key).map fun _ => request.timeLimitMinutes
  authorizedGuestLimit :=
    (members.lookup Field.authorizedGuestLimit.key).map fun _ => request.authorizedGuestLimit
  dataUsageLimitMBytes :=
    (members.lookup Field.dataUsageLimitMBytes.key).map fun _ => request.dataUsageLimitMBytes
  rxRateLimitKbps :=
    (members.lookup Field.rxRateLimitKbps.key).map fun _ => request.rxRateLimitKbps
  txRateLimitKbps :=
    (members.lookup Field.txRateLimitKbps.key).map fun _ => request.txRateLimitKbps

theorem Encodes.slot_fields {members : List (String × Json)} {request : CreateVoucherRequest}
    (encodes : Encodes members request) (field : Field) :
    (Encodes.fields members request).slot field = members.lookup field.key := by
  have held : (Encodes.fields members request).slot field =
      (members.lookup field.key).map fun _ => request.value field := by
    cases field <;>
      simp only [Encodes.fields, Fields.slot, value, Option.map_map] <;>
      rfl
  rw [held]
  cases found : members.lookup field.key with
  | none => rfl
  | some json => simp [encodes.eq_value found]

/-- An object is accepted as a request exactly when its members encode it. -/
theorem fromMembers_eq_ok {members : List (String × Json)} {request : CreateVoucherRequest} :
    fromMembers members = .ok request ↔ Encodes members request := by
  have empty : ∀ field, (({} : Fields).slot field) = none := by
    intro field
    cases field <;> rfl
  constructor
  · intro accepted
    cases visited : members.foldlM Fields.visit {} with
    | error why => simp [fromMembers, visited, Bind.bind, Except.bind] at accepted
    | ok fields =>
        simp only [fromMembers, visited, Bind.bind, Except.bind] at accepted
        rcases Fields.foldlM_visit_eq_ok.mp visited with ⟨distinct, known, filled⟩
        refine ⟨distinct, ?_, ?_⟩
        · intro key present
          rcases known key present with ⟨field, isKey, _⟩
          exact ⟨field, isKey⟩
        · intro field
          have held := Fields.finish_eq_ok.mp accepted field
          rwa [filled, empty, Option.none_or] at held
  · intro encodes
    have visited : members.foldlM Fields.visit {} = .ok (Encodes.fields members request) := by
      refine Fields.foldlM_visit_eq_ok.mpr ⟨encodes.distinct, ?_, ?_⟩
      · intro key present
        rcases encodes.known key present with ⟨field, isKey⟩
        exact ⟨field, isKey, empty field⟩
      · intro field
        rw [encodes.slot_fields, empty, Option.none_or]
    simp only [fromMembers, visited, Bind.bind, Except.bind]
    apply Fields.finish_eq_ok.mpr
    intro field
    rw [encodes.slot_fields]
    exact encodes.values field

/-! ## What is written -/

theorem value_isNull_imp {request : CreateVoucherRequest} {field : Field}
    (isNull : (request.value field).isNull = true) : field.default = some .null := by
  cases field <;>
    first
    | rfl
    | simp [value, Json.isNull, Codec.string, Codec.u32, Codec.u64] at isNull

theorem lookup_foldl_writeMember (request : CreateVoucherRequest) (fields : List Field)
    (members : List (String × Json)) (other : Field) :
    (fields.foldl request.writeMember members).lookup other.key =
      if other ∈ fields ∧ (request.value other).isNull = false then
        some (request.value other)
      else members.lookup other.key := by
  induction fields generalizing members with
  | nil => simp
  | cons field fields induction =>
      rw [List.foldl_cons, induction]
      cases null : (request.value field).isNull with
      | true =>
          have skipped : request.writeMember members field = members := by
            simp [writeMember, null]
          rw [skipped]
          by_cases same : other = field
          · subst same
            simp [null]
          · simp [same]
      | false =>
          have written : request.writeMember members field =
              insertMember field.key (request.value field) members := by
            simp [writeMember, null]
          rw [written, lookup_insertMember]
          by_cases same : other = field
          · subst same
            simp [null]
          · simp [same]

theorem mem_keys_foldl_writeMember {request : CreateVoucherRequest} {fields : List Field}
    {members : List (String × Json)} {key : String}
    (member : key ∈ (fields.foldl request.writeMember members).map Prod.fst) :
    (∃ field : Field, key = field.key) ∨ key ∈ members.map Prod.fst := by
  induction fields generalizing members with
  | nil => exact .inr member
  | cons field fields induction =>
      rcases induction member with known | present
      · exact .inl known
      · unfold writeMember at present
        split at present
        · exact .inr present
        · rcases mem_keys_insertMember present with rfl | old
          · exact .inl ⟨field, rfl⟩
          · exact .inr old

theorem pairwise_keys_foldl_writeMember {request : CreateVoucherRequest} {fields : List Field}
    {members : List (String × Json)} (sorted : (members.map Prod.fst).Pairwise (· < ·)) :
    ((fields.foldl request.writeMember members).map Prod.fst).Pairwise (· < ·) := by
  induction fields generalizing members with
  | nil => exact sorted
  | cons field fields induction =>
      apply induction
      unfold writeMember
      split
      · exact sorted
      · exact pairwise_keys_insertMember sorted

theorem lookup_members (request : CreateVoucherRequest) (field : Field) :
    request.members.lookup field.key =
      if (request.value field).isNull then none else some (request.value field) := by
  have everyField : field ∈ Field.all := by cases field <;> decide
  rw [members, lookup_foldl_writeMember]
  cases (request.value field).isNull <;> simp [everyField]

theorem encodes_members (request : CreateVoucherRequest) :
    Encodes request.members request where
  distinct := (pairwise_keys_foldl_writeMember (by simp)).imp ne_of_lt
  known := by
    intro key member
    simpa using mem_keys_foldl_writeMember member
  values := by
    intro field
    rw [lookup_members]
    cases null : (request.value field).isNull with
    | true => simp [value_isNull_imp null, Json.isNull_iff.mp null]
    | false => simp

/-- What is written for the controller reads as the same request again. -/
theorem fromMembers_members (request : CreateVoucherRequest) :
    fromMembers request.members = .ok request :=
  fromMembers_eq_ok.mpr request.encodes_members

theorem decode_encode {α : Type} (codec : Codec α) (value : α) :
    codec.decode (codec.encode value) = .ok value :=
  codec.decode_eq_ok.mpr rfl

/-- The values of all fields in order read as the request, too. -/
theorem fromItems_values (request : CreateVoucherRequest) :
    fromItems (Field.all.map request.value) = .ok request := by
  simp [fromItems, item, Field.all, value, decode_encode, Bind.bind, Except.bind, Pure.pure,
    Except.pure]

end CreateVoucherRequest

end VoucherProxy
