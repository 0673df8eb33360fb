import RecordSearch.Query.Memo
import RecordSearch.Query.Print
import RecordSearch.Proofs.Writing
import RecordSearch.Proofs.Meaning
import RecordSearch.Proofs.Highlighting
import RecordSearch.Proofs.Refusal
import RecordSearch.Proofs.Spacing
import RecordSearch.Proofs.Decoding
import RecordSearch.Proofs.Widening
import RecordSearch.Proofs.Composition
import RecordSearch.Proofs.Highlighted
import RecordSearch.Proofs.Enclosing
import RecordSearch.Proofs.KeywordList
import RecordSearch.Proofs.Rereading
import RecordSearch.Proofs.PlainWords
import RecordSearch.Proofs.Remembering
import RecordSearch.Proofs.WholeTexts
import RecordSearch.Proofs.Lexemes
import RecordSearch.Proofs.StoredValues
import RecordSearch.Proofs.InvalidValues
import RecordSearch.Proofs.Checking
import RecordSearch.Proofs.Ranges
import RecordSearch.Proofs.Splitting
import RecordSearch.Proofs.FieldTerms
import RecordSearch.Proofs.Yield
import RecordSearch.Proofs.SavedPreferences
import RecordSearch.Proofs.Counters
