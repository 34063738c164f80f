import ScriptHelp.Text.Lowercase

namespace ScriptHelp.Stopwords

/-- Lowercase English stop words, sorted, contractions with and without apostrophe. -/
def english : List String := [
    "a", "about", "above", "across", "after", "again", "against", "all", "along", "already",
    "also", "although", "always", "am", "among", "an", "and", "any", "anyhow", "anyway",
    "anyways", "are", "aren't", "arent", "around", "as", "at", "be", "because", "been", "before",
    "being", "below", "between", "both", "but", "by", "can", "can't", "cannot", "cant", "could",
    "couldn't", "couldnt", "did", "didn't", "didnt", "do", "does", "doesn't", "doesnt", "doing",
    "don't", "done", "dont", "down", "during", "each", "either", "else", "even", "ever", "every",
    "few", "for", "from", "further", "had", "hadn't", "hadnt", "has", "hasn't", "hasnt", "have",
    "haven't", "havent", "having", "he", "he'd", "he'll", "he's", "hence", "her", "here",
    "here's", "hers", "herself", "him", "himself", "his", "how", "how's", "however", "i", "i'd",
    "i'll", "i'm", "i've", "if", "im", "in", "indeed", "into", "is", "isn't", "isnt", "it",
    "it's", "its", "itself", "ive", "just", "let's", "lets", "many", "may", "me", "might", "mine",
    "more", "most", "much", "must", "mustn't", "my", "myself", "neither", "never", "no", "nor",
    "not", "now", "of", "off", "often", "on", "once", "only", "onto", "or", "other", "others",
    "ought", "our", "ours", "ourselves", "out", "over", "own", "perhaps", "please", "quite",
    "rather", "really", "same", "several", "shall", "shan't", "she", "she'd", "she'll", "she's",
    "should", "shouldn't", "shouldnt", "so", "some", "somehow", "sometimes", "still", "such",
    "than", "that", "that's", "the", "their", "theirs", "them", "themselves", "then", "there",
    "there's", "therefore", "these", "they", "they'd", "they'll", "they're", "they've", "theyre",
    "this", "those", "though", "through", "thus", "till", "to", "too", "toward", "towards",
    "under", "unless", "until", "up", "upon", "us", "very", "via", "was", "wasn't", "wasnt", "we",
    "we'd", "we'll", "we're", "we've", "were", "weren't", "werent", "what", "what's", "whatever",
    "when", "when's", "whenever", "where", "where's", "whether", "which", "while", "who", "who's",
    "whoever", "whom", "whose", "why", "why's", "will", "with", "within", "without", "won't",
    "wont", "would", "wouldn't", "wouldnt", "yet", "you", "you'd", "you'll", "you're", "you've",
    "your", "youre", "yours", "yourself", "yourselves"]

def has (stopWords : List String) (word : String) : Bool := stopWords.contains (Text.lower word)

end ScriptHelp.Stopwords
