import IdentityClaims.Extraction

/-!
# Standard claims

The claims an identity provider is asked for (`StandardClaim`), in the order in which they are
resolved. Each has a logical name, a field under which a claim set is written, and a kind.
-/

namespace IdentityClaims

/-- What a claim is read as (`ClaimKind`). -/
inductive ClaimKind where
  | boolean | text
  deriving DecidableEq, Repr

def ClaimKind.name : ClaimKind → String
  | .boolean => "Boolean"
  | .text => "String"

inductive ClaimValue where
  | flag (value : Bool)
  | text (value : String)
  deriving DecidableEq, Repr

namespace ClaimValue

def kind : ClaimValue → ClaimKind
  | .flag _ => .boolean
  | .text _ => .text

/-- The value of a claim that nothing was found for. -/
def absent : ClaimKind → ClaimValue
  | .boolean => .flag false
  | .text => .text ""

def toJson : ClaimValue → Json.Value
  | .flag b => .boolean b
  | .text s => .string s

end ClaimValue

/-- How a claim of a kind is read from a payload, as `resolve` tells the kinds apart. -/
def ClaimKind.reader : ClaimKind → Reader ClaimValue
  | .boolean => Reader.boolean.map .flag
  | .text => Reader.text.map .text

inductive Claim where
  | subject | issuer | name | familyName | givenName | middleName | nickName | preferredUsername
  | profile | picture | website | gender | birthdate | zoneInfo | locale | updatedAt | email
  | emailVerified | emailPrimary | phone | phoneVerified
  deriving DecidableEq, Repr

namespace Claim

def all : List Claim :=
  [.subject, .issuer, .name, .familyName, .givenName, .middleName, .nickName, .preferredUsername,
   .profile, .picture, .website, .gender, .birthdate, .zoneInfo, .locale, .updatedAt, .email,
   .emailVerified, .emailPrimary, .phone, .phoneVerified]

/-- The logical name, under which a mapping configures the claim. -/
def logicalName : Claim → String
  | .subject => "Subject"
  | .issuer => "Issuer"
  | .name => "Name"
  | .familyName => "FamilyName"
  | .givenName => "GivenName"
  | .middleName => "MiddleName"
  | .nickName => "NickName"
  | .preferredUsername => "PreferredUsername"
  | .profile => "Profile"
  | .picture => "Picture"
  | .website => "Website"
  | .gender => "Gender"
  | .birthdate => "Birthdate"
  | .zoneInfo => "ZoneInfo"
  | .locale => "Locale"
  | .updatedAt => "UpdatedAt"
  | .email => "Email"
  | .emailVerified => "EmailVerified"
  | .emailPrimary => "EmailPrimary"
  | .phone => "Phone"
  | .phoneVerified => "PhoneVerified"

/-- The field of the claim in a written claim set. -/
def field : Claim → String
  | .subject => "subject"
  | .issuer => "issuer"
  | .name => "name"
  | .familyName => "family_name"
  | .givenName => "given_name"
  | .middleName => "middle_name"
  | .nickName => "nick_name"
  | .preferredUsername => "preferred_username"
  | .profile => "profile"
  | .picture => "picture"
  | .website => "website"
  | .gender => "gender"
  | .birthdate => "birthdate"
  | .zoneInfo => "zone_info"
  | .locale => "locale"
  | .updatedAt => "updated_at"
  | .email => "email"
  | .emailVerified => "email_verified"
  | .emailPrimary => "email_primary"
  | .phone => "phone"
  | .phoneVerified => "phone_verified"

def kind : Claim → ClaimKind
  | .emailVerified | .emailPrimary | .phoneVerified => .boolean
  | _ => .text

/-- The claim with a logical name, which must match to the letter. -/
def ofName? (name : String) : Option Claim :=
  all.find? fun claim => claim.logicalName == name

def ofField? (field : String) : Option Claim :=
  all.find? fun claim => claim.field == field

theorem mem_all (claim : Claim) : claim ∈ all := by
  cases claim <;> decide

end Claim

end IdentityClaims
