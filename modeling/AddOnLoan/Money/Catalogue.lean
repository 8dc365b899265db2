import AddOnLoan.Money.Basic
import AddOnLoan.Text.Blank
import AddOnLoan.Text.Case

namespace AddOnLoan

structure CurrencyEntry where
  code : Text
  name : Text
  places : Nat
  symbol : Text
  nameCode : Text
  deriving DecidableEq, Repr

def catalogue : List CurrencyEntry := [
  ⟨"USD", "US Dollar", 2, "$", "currency.USD"⟩,
  ⟨"EUR", "Euro", 2, "€", "currency.EUR"⟩,
  ⟨"GBP", "Pound Sterling", 2, "£", "currency.GBP"⟩,
  ⟨"PLN", "Polish Zloty", 2, "zł", "currency.PLN"⟩,
  ⟨"KES", "Kenyan Shilling", 2, "KSh", "currency.KES"⟩,
  ⟨"JPY", "Japanese Yen", 0, "¥", "currency.JPY"⟩,
  ⟨"BHD", "Bahraini Dinar", 3, "BD", "currency.BHD"⟩]

namespace CurrencyEntry

/-- The entry whose code is given, in any case and with blanks around it. -/
def find? (code : Text) : Option CurrencyEntry :=
  let wanted := asciiCapitals (strip code.chars)
  catalogue.find? fun entry => entry.code.chars == wanted

def currency (entry : CurrencyEntry) (places : Option Int) : Except MoneyError Currency :=
  Currency.make? entry.code (places.getD entry.places)

end CurrencyEntry
end AddOnLoan
