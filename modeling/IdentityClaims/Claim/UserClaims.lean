import IdentityClaims.Claim.Basic

/-!
# Claim sets

One value for every standard claim (`UserClaims`). Texts that were not found are empty and flags
that were not found are false.
-/

namespace IdentityClaims

structure UserClaims where
  subject : String := ""
  issuer : String := ""
  name : String := ""
  familyName : String := ""
  givenName : String := ""
  middleName : String := ""
  nickName : String := ""
  preferredUsername : String := ""
  profile : String := ""
  picture : String := ""
  website : String := ""
  gender : String := ""
  birthdate : String := ""
  zoneInfo : String := ""
  locale : String := ""
  updatedAt : String := ""
  email : String := ""
  emailVerified : Bool := false
  emailPrimary : Bool := false
  phone : String := ""
  phoneVerified : Bool := false
  deriving DecidableEq, Repr

namespace UserClaims

def get (claims : UserClaims) : Claim → ClaimValue
  | .subject => .text claims.subject
  | .issuer => .text claims.issuer
  | .name => .text claims.name
  | .familyName => .text claims.familyName
  | .givenName => .text claims.givenName
  | .middleName => .text claims.middleName
  | .nickName => .text claims.nickName
  | .preferredUsername => .text claims.preferredUsername
  | .profile => .text claims.profile
  | .picture => .text claims.picture
  | .website => .text claims.website
  | .gender => .text claims.gender
  | .birthdate => .text claims.birthdate
  | .zoneInfo => .text claims.zoneInfo
  | .locale => .text claims.locale
  | .updatedAt => .text claims.updatedAt
  | .email => .text claims.email
  | .emailVerified => .flag claims.emailVerified
  | .emailPrimary => .flag claims.emailPrimary
  | .phone => .text claims.phone
  | .phoneVerified => .flag claims.phoneVerified

/-- The claim set with another text for a claim, which must be a text claim (`set_string`). -/
def storeText? (claims : UserClaims) (value : String) : Claim → Option UserClaims
  | .subject => some { claims with subject := value }
  | .issuer => some { claims with issuer := value }
  | .name => some { claims with name := value }
  | .familyName => some { claims with familyName := value }
  | .givenName => some { claims with givenName := value }
  | .middleName => some { claims with middleName := value }
  | .nickName => some { claims with nickName := value }
  | .preferredUsername => some { claims with preferredUsername := value }
  | .profile => some { claims with profile := value }
  | .picture => some { claims with picture := value }
  | .website => some { claims with website := value }
  | .gender => some { claims with gender := value }
  | .birthdate => some { claims with birthdate := value }
  | .zoneInfo => some { claims with zoneInfo := value }
  | .locale => some { claims with locale := value }
  | .updatedAt => some { claims with updatedAt := value }
  | .email => some { claims with email := value }
  | .phone => some { claims with phone := value }
  | .emailVerified | .emailPrimary | .phoneVerified => none

/-- The claim set with another flag for a claim, which must be a boolean claim (`set_boolean`). -/
def storeFlag? (claims : UserClaims) (value : Bool) : Claim → Option UserClaims
  | .emailVerified => some { claims with emailVerified := value }
  | .emailPrimary => some { claims with emailPrimary := value }
  | .phoneVerified => some { claims with phoneVerified := value }
  | _ => none

/-- The claim set with another value for a claim, which must be of the claim's kind. -/
def store? (claims : UserClaims) (claim : Claim) : ClaimValue → Option UserClaims
  | .text s => claims.storeText? s claim
  | .flag b => claims.storeFlag? b claim

/-- The claim set written as JSON, with its fields in declaration order. -/
def toJson (claims : UserClaims) : Json.Value :=
  .object (Claim.all.map fun claim => (claim.field, (claims.get claim).toJson))

end UserClaims

end IdentityClaims
